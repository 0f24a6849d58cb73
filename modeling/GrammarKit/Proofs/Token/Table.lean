import GrammarKit.Token.Table

/-!
# What a token table guarantees

A table that was made from declarations has these declarations as its tokens
(`tokens_ofDecls`), and every role is played by a token that is declared to play
it and that has no recognizer (`RolesFit`, `rolesFit_ofDecls`). So no token plays
two roles. Every declaration has passed the check of its parent and its literals
(`declError?_eq_none_of_ofDecls`).
-/
namespace GrammarKit

theorem Roles.get?_assign (r : Roles) (role role' : Role) (id : TokenId) :
    (r.assign role id).get? role' = if role' = role then some id else r.get? role' := by
  cases role <;> cases role' <;> rfl

namespace TokenTable

variable {all decls : List TokenDecl} {t : TokenTable}

/-- Every role is played by a token that is declared to play it and that the
text does not tell by itself. -/
def RolesFit (all : List TokenDecl) (roles : Roles) : Prop :=
  ∀ role id, roles.get? role = some id →
    ∃ d, all[id]? = some d ∧ d.role = some role ∧ d.recognizer = none

theorem rolesFit_none (all : List TokenDecl) : RolesFit all .none := by
  intro role id h
  cases role <;> cases h

theorem assignRole_fit {roles roles' : Roles} {id : TokenId} {d : TokenDecl}
    (hd : all[id]? = some d) (hfit : RolesFit all roles)
    (h : assignRole all roles id d = .ok roles') : RolesFit all roles' := by
  unfold assignRole at h
  split at h
  · cases h
    exact hfit
  · next role hrole =>
    split at h
    · cases h
    · next hrec =>
      split at h
      · cases h
      · cases h
        intro role' id' hget
        rw [Roles.get?_assign] at hget
        split at hget
        · next heq =>
          cases hget
          exact ⟨d, hd, by rw [heq, hrole], by simpa using hrec⟩
        · exact hfit role' id' hget

theorem assignRoles_fit {roles roles' : Roles} {id : TokenId} {rest : List TokenDecl}
    (hrest : all.drop id = rest) (hfit : RolesFit all roles)
    (h : assignRoles all id roles rest = .ok roles') : RolesFit all roles' := by
  induction rest generalizing id roles with
  | nil =>
    cases h
    exact hfit
  | cons d rest ih =>
    have hd : all[id]? = some d := by
      rw [← List.head?_drop, hrest]
      rfl
    have htail : all.drop (id + 1) = rest := by
      rw [← List.tail_drop, hrest]
      rfl
    unfold assignRoles at h
    split at h
    · cases h
    · split at h
      · cases h
      · next roles₁ hrole => exact ih htail (assignRole_fit hd hfit hrole) h

/-- The declarations are the tokens of their table. -/
theorem tokens_ofDecls (h : ofDecls decls = .ok t) : t.tokens = decls := by
  unfold ofDecls at h
  split at h
  · cases h
  · split at h
    · cases h
    · cases h
      rfl

theorem rolesFit_ofDecls (h : ofDecls decls = .ok t) : RolesFit t.tokens t.roles := by
  unfold ofDecls at h
  split at h
  · cases h
  · next roles hroles =>
    split at h
    · cases h
    · cases h
      exact assignRoles_fit List.drop_zero (rolesFit_none decls) hroles

theorem declError?_eq_none_of_assignRoles {all rest : List TokenDecl} {id : TokenId}
    {roles roles' : Roles} (h : assignRoles all id roles rest = .ok roles') :
    ∀ d ∈ rest, declError? all.length d = none := by
  induction rest generalizing id roles with
  | nil => simp
  | cons d rest ih =>
    unfold assignRoles at h
    split at h
    · cases h
    · next hnone =>
      split at h
      · cases h
      · exact List.forall_mem_cons.mpr ⟨hnone, ih h⟩

theorem declError?_eq_none_of_ofDecls (h : ofDecls decls = .ok t) :
    ∀ d ∈ decls, declError? decls.length d = none := by
  unfold ofDecls at h
  split at h
  · cases h
  · next hroles => exact declError?_eq_none_of_assignRoles hroles

theorem literalError?_eq_none {count : Nat} {d : TokenDecl} (h : declError? count d = none) :
    declError?.literalError? d = none := by
  unfold declError? at h
  split at h
  · split at h
    · cases h
    · exact h
  · exact h

theorem parent_lt {count : Nat} {d : TokenDecl} (h : declError? count d = none) :
    ∀ link ∈ d.parent, link.id < count := by
  intro link hlink
  unfold declError? at h
  rw [hlink] at h
  dsimp only at h
  split at h
  · cases h
  · next hlt => exact Nat.lt_of_not_le hlt

section Roles

variable (hfit : RolesFit t.tokens t.roles) {role role' : Role} {id : TokenId}
include hfit

theorem role?_lt (h : t.role? role = some id) : id < t.size := by
  obtain ⟨d, hd, -⟩ := hfit role id h
  exact (List.getElem?_eq_some_iff.mp hd).1

/-- A token plays one role only. -/
theorem role?_inj (h : t.role? role = some id) (h' : t.role? role' = some id) : role = role' := by
  obtain ⟨d, hd, hrole, -⟩ := hfit role id h
  obtain ⟨d', hd', hrole', -⟩ := hfit role' id h'
  rw [hd] at hd'
  cases hd'
  rw [hrole] at hrole'
  exact Option.some.inj hrole'

end Roles
end TokenTable
end GrammarKit
