import GrammarKit.Proofs.Fault
import GrammarKit.Proofs.Token.Ancestry
import GrammarKit.Proofs.Token.Table

/-!
# Which declarations make a token table

The declarations are checked one after the other for all but circles of parents
(`WellDeclared`), and then for these (`Valid`). The invariant of the pass is that the
roles are those that the declarations so far play (`RolesUpTo`); with it, an error of the
pass is right about a declaration (`Refuses`), so that nothing valid is refused.

`ofDecls_ok_iff_valid`: a table is made exactly of valid declarations, and holds them and
their roles. `cyclicParent_iff`: of circles, the first declaration that leads into one is
blamed. It need not be on the circle itself.
-/
namespace GrammarKit.TokenTable

variable {decls rest : List TokenDecl} {roles roles' : Roles} {n : Nat} {d : TokenDecl}

/-! ## What is asked of declarations -/

/-- The declaration `id` plays the role. -/
def Plays (decls : List TokenDecl) (id : TokenId) (role : Role) : Prop :=
  ∃ d, decls[id]? = some d ∧ d.role = some role

/-- Parents are declared, literals are not empty, roles are played once and by what the
text does not tell. -/
structure WellDeclared (decls : List TokenDecl) : Prop where
  parents : ∀ d ∈ decls, ∀ link ∈ d.parent, link.id < decls.length
  literals : ∀ d ∈ decls, ∀ options, d.recognizer = some (.literals options) →
    options ≠ [] ∧ "" ∉ options
  bare : ∀ d ∈ decls, d.role ≠ none → d.recognizer = none
  roles_once : ∀ role id id', Plays decls id role → Plays decls id' role → id = id'

/-- No declaration is its own ancestor either. -/
structure Valid (decls : List TokenDecl) : Prop extends WellDeclared decls where
  acyclic : ∀ id, ¬ OwnAncestor decls id

/-- The error is right about one or two declarations. -/
inductive Refuses (decls : List TokenDecl) : TokenError → Prop where
  | unknownParent {d : TokenDecl} {link : ParentLink} : d ∈ decls → d.parent = some link →
      decls.length ≤ link.id → Refuses decls (.unknownParent d.name link.id)
  | emptyLiterals {d : TokenDecl} : d ∈ decls → d.recognizer = some (.literals []) →
      Refuses decls (.emptyLiterals d.name)
  | emptyLiteral {d : TokenDecl} {options : List String} : d ∈ decls →
      d.recognizer = some (.literals options) → "" ∈ options → Refuses decls (.emptyLiteral d.name)
  | roleWithRecognizer {d : TokenDecl} {role : Role} : d ∈ decls → d.role = some role →
      d.recognizer ≠ none → Refuses decls (.roleWithRecognizer d.name role)
  | duplicateRole {i j : TokenId} {d e : TokenDecl} {role : Role} : i < j →
      decls[i]? = some d → decls[j]? = some e → d.role = some role → e.role = some role →
      Refuses decls (.duplicateRole role d.name e.name)

/-- What is refused is not well declared. -/
theorem Refuses.not_wellDeclared {e : TokenError} (h : Refuses decls e) : ¬ WellDeclared decls := by
  intro hwell
  cases h with
  | unknownParent hd hlink hle => exact absurd (hwell.parents _ hd _ hlink) (Nat.not_lt.mpr hle)
  | emptyLiterals hd hrec => exact (hwell.literals _ hd _ hrec).1 rfl
  | emptyLiteral hd hrec hmem => exact (hwell.literals _ hd _ hrec).2 hmem
  | roleWithRecognizer hd hrole hrec => exact hrec (hwell.bare _ hd (by simp [hrole]))
  | duplicateRole hlt hi hj hrole hrole' =>
    exact Nat.ne_of_lt hlt (hwell.roles_once _ _ _ ⟨_, hi, hrole⟩ ⟨_, hj, hrole'⟩)

/-- The check of the declarations one by one does not speak of circles. -/
theorem Refuses.ne_cyclicParent {e : TokenError} (h : Refuses decls e) (name : String) :
    e ≠ .cyclicParent name := by
  rintro rfl
  cases h

/-! ## One declaration -/

theorem literals_of_literalError? (h : declError?.literalError? d = none) (options : List String)
    (hrec : d.recognizer = some (.literals options)) : options ≠ [] ∧ "" ∉ options := by
  unfold declError?.literalError? at h
  rw [hrec] at h
  dsimp only at h
  split at h
  · cases h
  · next hne =>
    split at h
    · cases h
    · next hany => exact ⟨by simpa using hne, by simpa using hany⟩

theorem refuses_of_literalError? (hd : d ∈ decls) {e : TokenError}
    (h : declError?.literalError? d = some e) : Refuses decls e := by
  unfold declError?.literalError? at h
  split at h
  · next options hrec =>
    split at h
    · next hempty =>
      rw [List.isEmpty_iff.mp hempty] at hrec
      cases h
      exact .emptyLiterals hd hrec
    · split at h
      · next hany =>
        cases h
        exact .emptyLiteral hd hrec (by simpa using hany)
      · cases h
  · cases h

theorem refuses_of_declError? (hd : d ∈ decls) {e : TokenError}
    (h : declError? decls.length d = some e) : Refuses decls e := by
  unfold declError? at h
  split at h
  · next link hlink =>
    split at h
    · next hle =>
      cases h
      exact .unknownParent hd hlink hle
    · exact refuses_of_literalError? hd h
  · exact refuses_of_literalError? hd h

/-- The roles are those that the first `n` declarations play. -/
def RolesUpTo (decls : List TokenDecl) (n : Nat) (roles : Roles) : Prop :=
  ∀ role id, roles.get? role = some id ↔ id < n ∧ Plays decls id role

theorem rolesUpTo_none (decls : List TokenDecl) : RolesUpTo decls 0 .none := by
  intro role id
  cases role <;> simp [Roles.get?, Roles.none]

/-- One declaration more brings its role. -/
theorem plays_upTo_succ_iff (hd : decls[n]? = some d) {role : Role} {id : TokenId} :
    id < n + 1 ∧ Plays decls id role ↔
      (id < n ∧ Plays decls id role) ∨ (id = n ∧ d.role = some role) := by
  have hplays : Plays decls n role ↔ d.role = some role := by simp [Plays, hd]
  rw [Nat.lt_succ_iff_lt_or_eq, or_and_right]
  refine or_congr_right (and_congr_right ?_)
  rintro rfl
  exact hplays

/-- The next declaration plays no role. -/
theorem RolesUpTo.skip (h : RolesUpTo decls n roles) (hd : decls[n]? = some d)
    (hrole : d.role = none) : RolesUpTo decls (n + 1) roles := by
  intro role id
  rw [plays_upTo_succ_iff hd, h role id, hrole]
  simp

/-- The next declaration plays a role that none before it does. -/
theorem RolesUpTo.assign (h : RolesUpTo decls n roles) (hd : decls[n]? = some d) {role : Role}
    (hrole : d.role = some role) (hfree : roles.get? role = none) :
    RolesUpTo decls (n + 1) (roles.assign role n) := by
  intro role' id
  rw [plays_upTo_succ_iff hd, ← h role' id, Roles.get?_assign, hrole]
  split
  · next heq => simp [heq, hfree, eq_comm]
  · next hne => simp [Ne.symm hne]

/-- A role is given to a declaration that the text does not tell and that is the first to
play it, or the declaration is refused. -/
theorem assignRole_spec (h : RolesUpTo decls n roles) (hd : decls[n]? = some d) :
    (∃ roles', assignRole decls roles n d = .ok roles' ∧ RolesUpTo decls (n + 1) roles' ∧
      (d.role ≠ none → d.recognizer = none)) ∨
    ∃ e, assignRole decls roles n d = .error e ∧ Refuses decls e := by
  have hmem : d ∈ decls := List.mem_of_getElem? hd
  unfold assignRole
  cases hrole : d.role with
  | none => exact .inl ⟨roles, rfl, h.skip hd hrole, fun hne => absurd rfl hne⟩
  | some role =>
    dsimp only
    split
    · next hrec =>
      exact .inr ⟨_, rfl, .roleWithRecognizer hmem hrole (Option.isSome_iff_ne_none.mp hrec)⟩
    · next hrec =>
      cases hfree : roles.get? role with
      | none => exact .inl ⟨_, rfl, h.assign hd hrole hfree, fun _ => by simpa using hrec⟩
      | some first =>
        obtain ⟨hlt, e, he, hrole'⟩ := (h role first).mp hfree
        refine .inr ⟨_, rfl, ?_⟩
        rw [he]
        exact .duplicateRole hlt he hd hrole' hrole

/-! ## All declarations -/

theorem getElem?_of_drop_eq_cons (h : decls.drop n = d :: rest) :
    decls[n]? = some d ∧ decls.drop (n + 1) = rest := by
  refine ⟨?_, ?_⟩
  · rw [← List.head?_drop, h]
    rfl
  · rw [← List.tail_drop, h]
    rfl

/-- The pass over the declarations from `n` on. -/
theorem assignRoles_spec (h : RolesUpTo decls n roles) (hrest : decls.drop n = rest) :
    (∃ roles', assignRoles decls n roles rest = .ok roles' ∧
      RolesUpTo decls decls.length roles' ∧ ∀ d ∈ rest, declError? decls.length d = none ∧
        (d.role ≠ none → d.recognizer = none)) ∨
    ∃ e, assignRoles decls n roles rest = .error e ∧ Refuses decls e := by
  induction rest generalizing n roles with
  | nil =>
    refine .inl ⟨roles, rfl, fun role id => ?_, by simp⟩
    have hle : decls.length ≤ n := List.drop_eq_nil_iff.mp hrest
    rw [h role id]
    refine ⟨fun ⟨_, hplays⟩ => ⟨?_, hplays⟩,
      fun ⟨hlt, hplays⟩ => ⟨Nat.lt_of_lt_of_le hlt hle, hplays⟩⟩
    obtain ⟨d, hd, -⟩ := hplays
    exact (List.getElem?_eq_some_iff.mp hd).1
  | cons d rest ih =>
    obtain ⟨hd, htail⟩ := getElem?_of_drop_eq_cons hrest
    unfold assignRoles
    cases hdecl : declError? decls.length d with
    | some e => exact .inr ⟨e, rfl, refuses_of_declError? (List.mem_of_getElem? hd) hdecl⟩
    | none =>
      dsimp only
      rcases assignRole_spec h hd with ⟨roles₁, hassign, hroles, hbare⟩ | ⟨e, hassign, he⟩
      · rw [hassign]
        rcases ih hroles htail with ⟨roles', hok, hroles', hall⟩ | herror
        · exact .inl ⟨roles', hok, hroles', List.forall_mem_cons.mpr ⟨⟨hdecl, hbare⟩, hall⟩⟩
        · exact .inr herror
      · rw [hassign]
        exact .inr ⟨e, rfl, he⟩

/-- All declarations pass exactly if they are well declared. -/
theorem assignRoles_cases (decls : List TokenDecl) :
    (∃ roles, assignRoles decls 0 .none decls = .ok roles ∧ WellDeclared decls ∧
      ∀ role id, roles.get? role = some id ↔ Plays decls id role) ∨
    ∃ e, assignRoles decls 0 .none decls = .error e ∧ Refuses decls e := by
  rcases assignRoles_spec (rolesUpTo_none decls) List.drop_zero with ⟨roles, hok, hroles, hall⟩ | herror
  · have hplays : ∀ role id, roles.get? role = some id ↔ Plays decls id role := fun role id => by
      rw [hroles role id, and_iff_right_iff_imp]
      rintro ⟨d, hd, -⟩
      exact (List.getElem?_eq_some_iff.mp hd).1
    refine .inl ⟨roles, hok, ⟨fun d hd => parent_lt (hall d hd).1,
      fun d hd => literals_of_literalError? (literalError?_eq_none (hall d hd).1),
      fun d hd => (hall d hd).2, fun role id id' hid hid' => ?_⟩, hplays⟩
    have hsame := ((hplays role id).mpr hid).symm.trans ((hplays role id').mpr hid')
    exact Option.some.inj hsame
  · exact .inr herror

/-- The declaration `id` is the first that leads into a circle. -/
def FirstIntoCircle (decls : List TokenDecl) (id : TokenId) (d : TokenDecl) : Prop :=
  decls[id]? = some d ∧ LeadsIntoCircle decls id ∧ ∀ j < id, ¬ LeadsIntoCircle decls j

theorem parentLink?_eq {id : TokenId} (hd : decls[id]? = some d) :
    parentLink? decls id = d.parent := by
  unfold parentLink?
  rw [hd]
  rfl

/-- The walks of all declarations end, or not that of the first that leads into a
circle. -/
theorem find?_chainEnds_cases (decls : List TokenDecl) :
    (decls.find? (fun d => !chainEnds decls decls.length d.parent) = none ∧
      ∀ id, ¬ LeadsIntoCircle decls id) ∨
    ∃ id d, decls.find? (fun d => !chainEnds decls decls.length d.parent) = some d ∧
      FirstIntoCircle decls id d := by
  have hends : ∀ id d, decls[id]? = some d →
      (chainEnds decls decls.length d.parent = true ↔ ¬ LeadsIntoCircle decls id) := by
    intro id d hd
    rw [← parentLink?_eq hd, chainEnds_iff]
  cases hfind : decls.find? (fun d => !chainEnds decls decls.length d.parent) with
  | none =>
    refine .inl ⟨rfl, fun id hcircle => ?_⟩
    obtain ⟨p, ⟨d, link, hd, -⟩, -⟩ := hcircle.exists_parent
    have hend := List.find?_eq_none.mp hfind d (List.mem_of_getElem? hd)
    rw [Bool.not_eq_true', Bool.not_eq_false] at hend
    exact (hends id d hd).mp hend hcircle
  | some d =>
    obtain ⟨hopen, before, after, hsplit, hbefore⟩ := List.find?_eq_some_iff_append.mp hfind
    have hd : decls[before.length]? = some d := by
      rw [hsplit, List.getElem?_append_right (Nat.le_refl _), Nat.sub_self]
      rfl
    rw [Bool.not_eq_true'] at hopen
    refine .inr ⟨before.length, d, rfl, hd, ?_, fun j hj => ?_⟩
    · by_contra hnone
      rw [(hends _ d hd).mpr hnone] at hopen
      cases hopen
    · have hj' : decls[j]? = some before[j] := by
        rw [hsplit, List.getElem?_append_left hj, List.getElem?_eq_getElem hj]
      refine (hends j _ hj').mp ?_
      have hend := hbefore before[j] (List.getElem_mem hj)
      simpa using hend

/-- What comes of declarations. -/
theorem ofDecls_cases (decls : List TokenDecl) :
    (∃ t, ofDecls decls = .ok t ∧ Valid decls ∧ t.tokens = decls ∧
      ∀ role id, t.role? role = some id ↔ Plays decls id role) ∨
    (∃ e, ofDecls decls = .error e ∧ Refuses decls e) ∨
    ∃ id d, ofDecls decls = .error (.cyclicParent d.name) ∧ WellDeclared decls ∧
      FirstIntoCircle decls id d := by
  unfold ofDecls
  rcases assignRoles_cases decls with ⟨roles, hok, hwell, hplays⟩ | ⟨e, herror, he⟩
  · rw [hok]
    rcases find?_chainEnds_cases decls with ⟨hfind, hnone⟩ | ⟨id, d, hfind, hfirst⟩
    · rw [hfind]
      exact .inl ⟨_, rfl, ⟨hwell, forall_not_ownAncestor_iff.mpr hnone⟩, rfl, hplays⟩
    · rw [hfind]
      exact .inr (.inr ⟨id, d, rfl, hwell, hfirst⟩)
  · rw [herror]
    exact .inr (.inl ⟨e, rfl, he⟩)

/-! ## Looking declarations up -/

namespace Checked

/-- Whether the chain of parents that starts with `link` ends within `fuel` links, where
every parent must be there. -/
def chainEnds (all : List TokenDecl) : Nat → Option ParentLink → Except Fault Bool
  | _, none => .ok true
  | 0, some _ => .ok false
  | fuel + 1, some link => do
    let d ← require .outOfRange all[link.id]?
    chainEnds all fuel d.parent

/-- The first declaration whose chain of parents does not end. -/
def firstEndless (all : List TokenDecl) : List TokenDecl → Except Fault (Option TokenDecl)
  | [] => .ok none
  | d :: rest => do
    if ← chainEnds all all.length d.parent then firstEndless all rest else .ok (some d)

/-- The roles after declaration `id`; whoever played its role before must be there. -/
def assignRole (all : List TokenDecl) (roles : Roles) (id : TokenId) (d : TokenDecl) :
    Except (Failure TokenError) Roles :=
  match d.role with
  | none => .ok roles
  | some role =>
    if d.recognizer.isSome then .error (.error (.roleWithRecognizer d.name role))
    else match roles.get? role with
      | some first => do
        let e ← Failure.ofFault (require .outOfRange all[first]?)
        .error (.error (.duplicateRole role e.name d.name))
      | none => .ok (roles.assign role id)

/-- Checks the declarations from `id` on, one after the other. -/
def assignRoles (all : List TokenDecl) (id : TokenId) (roles : Roles) :
    List TokenDecl → Except (Failure TokenError) Roles
  | [] => .ok roles
  | d :: rest =>
    match declError? all.length d with
    | some e => .error (.error e)
    | none => do
      let roles ← assignRole all roles id d
      assignRoles all (id + 1) roles rest

/-- The table of these declarations, where every one that is looked up must be there. -/
def ofDecls (decls : List TokenDecl) : Except (Failure TokenError) TokenTable := do
  let roles ← assignRoles decls 0 Roles.none decls
  match ← Failure.ofFault (firstEndless decls decls) with
  | some d => .error (.error (.cyclicParent d.name))
  | none => .ok ⟨decls, roles⟩

theorem chainEnds_eq (hparents : ∀ d ∈ decls, ∀ link ∈ d.parent, link.id < decls.length)
    (fuel : Nat) {link : Option ParentLink} (hlink : ∀ l ∈ link, l.id < decls.length) :
    chainEnds decls fuel link = .ok (TokenTable.chainEnds decls fuel link) := by
  induction fuel generalizing link with
  | zero => cases link <;> rfl
  | succ fuel ih =>
    cases link with
    | none => rfl
    | some link =>
      have hget := List.getElem?_eq_getElem (hlink link rfl)
      rw [chainEnds, TokenTable.chainEnds, hget]
      exact ih (hparents _ (List.getElem_mem _))

theorem firstEndless_eq (hparents : ∀ d ∈ decls, ∀ link ∈ d.parent, link.id < decls.length)
    (hrest : rest ⊆ decls) : firstEndless decls rest =
      .ok (rest.find? fun d => !TokenTable.chainEnds decls decls.length d.parent) := by
  induction rest with
  | nil => rfl
  | cons d rest ih =>
    obtain ⟨hd, hrest⟩ := List.cons_subset.mp hrest
    rw [firstEndless, chainEnds_eq hparents _ (hparents d hd), ok_bind, List.find?_cons, ih hrest]
    cases TokenTable.chainEnds decls decls.length d.parent <;> rfl

/-- Who plays a role already is one of the declarations before. -/
theorem assignRole_eq (h : RolesUpTo decls n roles) (d : TokenDecl) :
    assignRole decls roles n d = Failure.ofError (TokenTable.assignRole decls roles n d) := by
  unfold assignRole TokenTable.assignRole
  cases d.role with
  | none => rfl
  | some role =>
    dsimp only
    split
    · rfl
    · cases hfree : roles.get? role with
      | none => rfl
      | some first =>
        obtain ⟨-, e, he, -⟩ := (h role first).mp hfree
        dsimp only
        rw [he]
        rfl

theorem assignRoles_eq (h : RolesUpTo decls n roles) (hrest : decls.drop n = rest) :
    assignRoles decls n roles rest =
      Failure.ofError (TokenTable.assignRoles decls n roles rest) := by
  induction rest generalizing n roles with
  | nil => rfl
  | cons d rest ih =>
    obtain ⟨hd, htail⟩ := getElem?_of_drop_eq_cons hrest
    unfold assignRoles TokenTable.assignRoles
    cases declError? decls.length d with
    | some e => rfl
    | none =>
      dsimp only
      rw [assignRole_eq h]
      rcases assignRole_spec h hd with ⟨roles₁, hassign, hroles, -⟩ | ⟨e, hassign, -⟩
      · rw [hassign]
        exact ih hroles htail
      · rw [hassign]
        rfl

/-- Every declaration that is looked up is there: parents are walked along only when they
are known to be declared. -/
theorem ofDecls_eq (decls : List TokenDecl) :
    ofDecls decls = Failure.ofError (TokenTable.ofDecls decls) := by
  unfold ofDecls TokenTable.ofDecls
  rw [assignRoles_eq (rolesUpTo_none decls) List.drop_zero]
  rcases assignRoles_cases decls with ⟨roles, hok, hwell, -⟩ | ⟨e, herror, -⟩
  · rw [hok, Failure.ofError_ok, ok_bind, firstEndless_eq hwell.parents (List.Subset.refl decls),
      Failure.ofFault_ok, ok_bind]
    dsimp only
    cases decls.find? fun d => !TokenTable.chainEnds decls decls.length d.parent <;> rfl
  · rw [herror]
    rfl

end Checked

/-! ## Main results -/

/-- **Checking declarations is sound and complete.** A table is made exactly of valid
declarations. It holds them as they are, and a role is played by the one that declares it.
No declaration is looked up that is not there. -/
theorem ofDecls_ok_iff_valid (decls : List TokenDecl) :
    (Succeeds (ofDecls decls) ↔ Valid decls) ∧
      (∀ t, ofDecls decls = .ok t →
        t.tokens = decls ∧ ∀ role id, t.role? role = some id ↔ Plays decls id role) ∧
      Checked.ofDecls decls = Failure.ofError (ofDecls decls) := by
  rw [Checked.ofDecls_eq]
  rcases ofDecls_cases decls with ⟨t, hok, hvalid, htokens, hroles⟩ | ⟨e, herror, he⟩ |
    ⟨id, d, herror, -, hfirst⟩
  · rw [hok]
    refine ⟨iff_of_true (succeeds_ok t) hvalid, ?_, rfl⟩
    rintro _ ⟨⟩
    exact ⟨htokens, hroles⟩
  · rw [herror]
    exact ⟨iff_of_false (not_succeeds_error e) fun h => he.not_wellDeclared h.toWellDeclared, nofun,
      rfl⟩
  · rw [herror]
    refine ⟨iff_of_false (not_succeeds_error _) fun h => ?_, nofun, rfl⟩
    obtain ⟨a, -, hcircle⟩ := hfirst.2.1
    exact h.acyclic a hcircle

theorem FirstIntoCircle.unique {id id' : TokenId} {d d' : TokenDecl}
    (h : FirstIntoCircle decls id d) (h' : FirstIntoCircle decls id' d') : id = id' ∧ d = d' := by
  obtain ⟨hd, hcircle, hfirst⟩ := h
  obtain ⟨hd', hcircle', hfirst'⟩ := h'
  have heq : id = id' := Nat.le_antisymm
    (Nat.not_lt.mp fun hlt => hfirst id' hlt hcircle')
    (Nat.not_lt.mp fun hlt => hfirst' id hlt hcircle)
  subst heq
  exact ⟨rfl, Option.some.inj (hd.symm.trans hd')⟩

/-- **Who is blamed for a circle.** If nothing else is wrong, the first declaration that
leads into a circle is blamed. It is not on the circle itself exactly if a declaration
that only hangs below a circle comes before all that are on one. -/
theorem cyclicParent_iff (decls : List TokenDecl) :
    (∀ name, ofDecls decls = .error (.cyclicParent name) ↔
      WellDeclared decls ∧ ∃ id d, d.name = name ∧ FirstIntoCircle decls id d) ∧
    ∀ id d, FirstIntoCircle decls id d → (¬ OwnAncestor decls id ↔
      ∃ i, LeadsIntoCircle decls i ∧ ¬ OwnAncestor decls i ∧ ∀ j, OwnAncestor decls j → i < j) := by
  refine ⟨fun name => ⟨fun h => ?_, ?_⟩, fun id d ⟨_, hcircle, hfirst⟩ => ⟨fun hoff => ?_, ?_⟩⟩
  · rcases ofDecls_cases decls with ⟨t, hok, -⟩ | ⟨e, herror, he⟩ | ⟨id, d, herror, hwell, hfirst⟩
    · cases hok.symm.trans h
    · exact absurd (Except.error.inj (herror.symm.trans h)) (he.ne_cyclicParent name)
    · cases herror.symm.trans h
      exact ⟨hwell, id, d, rfl, hfirst⟩
  · rintro ⟨hwell, id, d, rfl, hfirst⟩
    rcases ofDecls_cases decls with ⟨t, -, hvalid, -⟩ | ⟨e, -, he⟩ | ⟨id', d', herror, -, hfirst'⟩
    · obtain ⟨a, -, hcircle⟩ := hfirst.2.1
      exact absurd hcircle (hvalid.acyclic a)
    · exact absurd hwell he.not_wellDeclared
    · rw [herror, (hfirst.unique hfirst').2]
  · refine ⟨id, hcircle, hoff, fun j hj => Nat.lt_of_le_of_ne ?_ fun heq => hoff (heq ▸ hj)⟩
    exact Nat.not_lt.mp fun hlt => hfirst j hlt hj.leadsIntoCircle
  · rintro ⟨i, hi, -, hbefore⟩ hon
    exact hfirst i (hbefore id hon) hi

/-- A declaration below another one that is its own parent. -/
def hanging : List TokenDecl :=
  [(TokenDecl.named "X").childOf 1 .substitutable, (TokenDecl.named "A").childOf 1 .substitutable]

/-- The one below is blamed, although it is nobody's parent. -/
theorem ofDecls_hanging :
    ofDecls hanging = .error (.cyclicParent "X") ∧
      ∀ id d, hanging[id]? = some d → d.name = "X" → ¬ OwnAncestor hanging id := by
  refine ⟨by decide, fun id d hd hname hcircle => ?_⟩
  have hid : id = 0 := by
    match id with
    | 0 => rfl
    | 1 =>
      cases hd
      exact absurd hname (by decide)
    | id + 2 => cases hd
  subst hid
  obtain ⟨c, -, e, link, he, hlink, hzero⟩ := Relation.TransGen.tail'_iff.mp hcircle
  have hone : link.id = 1 := by
    match c with
    | 0 | 1 =>
      cases he
      cases hlink
      rfl
    | c + 2 => cases he
  rw [hone] at hzero
  exact absurd hzero (by decide)

end GrammarKit.TokenTable
