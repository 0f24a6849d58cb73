import GrammarKit.Proofs.Token.Descendants

/-!
# Descendants in preorder

`InPreorder` says in which order tokens and their descendants are listed, without a stack: each
token comes before its descendants, those of an earlier child before a later child, and a
token that is listed already is passed over with all that is below it. There is one such list
(`InPreorder.unique`), and a visit makes it (`exists_inPreorder_visit`).

A visit keeps what it has not come to yet on a stack, and a token can be there more than once.
So the number of its rounds is not the number of tokens listed: it is the number of tokens put
on the stack, the given ones and the children of each listed one (`InPreorder.loop_append`).

The result is `withDescendants_preorder`.
-/
namespace GrammarKit

open Relation (ReflTransGen)

namespace Descendants

variable {children : Assoc TokenId (List TokenId)} {seen tokens more added : List TokenId}

/-- The tokens and their descendants, as far as they are not seen yet, are listed as `added`. -/
inductive InPreorder (children : Assoc TokenId (List TokenId)) :
    (seen tokens added : List TokenId) → Prop
  | nil {seen : List TokenId} : InPreorder children seen [] []
  | skip {seen tokens added : List TokenId} {t : TokenId} (mem : t ∈ seen)
      (rest : InPreorder children seen tokens added) : InPreorder children seen (t :: tokens) added
  | list {seen tokens below added : List TokenId} {t : TokenId} (new : t ∉ seen)
      (descend : InPreorder children (seen ++ [t]) (childrenIn children t) below)
      (rest : InPreorder children (seen ++ t :: below) tokens added) :
      InPreorder children seen (t :: tokens) (t :: below ++ added)

/-- There is only one list in preorder. -/
theorem InPreorder.unique {added' : List TokenId} (h : InPreorder children seen tokens added)
    (h' : InPreorder children seen tokens added') : added = added' := by
  induction h generalizing added' with
  | nil =>
    cases h'
    rfl
  | skip hmem _ ih =>
    cases h' with
    | skip _ hrest => exact ih hrest
    | list hnew _ _ => exact absurd hmem hnew
  | list hnew _ _ ihbelow ihrest =>
    cases h' with
    | skip hmem _ => exact absurd hmem hnew
    | list _ hbelow hrest =>
      cases ihbelow hbelow
      rw [ihrest hrest]

/-- Of tokens that are seen, nothing is listed. -/
theorem inPreorder_of_subset (h : tokens ⊆ seen) : InPreorder children seen tokens [] := by
  induction tokens with
  | nil => exact .nil
  | cons t tokens ih =>
    obtain ⟨ht, htokens⟩ := List.cons_subset.mp h
    exact .skip ht (ih htokens)

/-- More tokens are listed behind those before them. -/
theorem inPreorder_append_iff : InPreorder children seen (tokens ++ more) added ↔
    ∃ first last, added = first ++ last ∧ InPreorder children seen tokens first ∧
      InPreorder children (seen ++ first) more last := by
  constructor
  · intro h
    induction tokens generalizing seen added with
    | nil => exact ⟨[], added, rfl, .nil, by simpa using h⟩
    | cons t tokens ih =>
      cases h with
      | skip hmem hrest =>
        obtain ⟨first, last, rfl, hfirst, hlast⟩ := ih hrest
        exact ⟨first, last, rfl, .skip hmem hfirst, hlast⟩
      | @list _ _ below _ _ hnew hbelow hrest =>
        obtain ⟨first, last, rfl, hfirst, hlast⟩ := ih hrest
        exact ⟨t :: below ++ first, last, by simp, .list hnew hbelow hfirst, by simpa using hlast⟩
  · rintro ⟨first, last, rfl, hfirst, hlast⟩
    induction hfirst with
    | nil => simpa using hlast
    | skip hmem _ ih => exact .skip hmem (ih hlast)
    | list hnew hbelow _ _ ih =>
      rw [List.append_assoc]
      exact .list hnew hbelow (ih (by simpa using hlast))

/-- What is listed is listed once more in the same order, if nothing of it is seen yet. -/
theorem InPreorder.again (h : InPreorder children seen tokens added) :
    InPreorder children seen added added := by
  induction h with
  | nil => exact .nil
  | skip _ _ ih => exact ih
  | @list seen tokens below added t hnew hbelow _ _ ih =>
    -- What is below the token follows it in the list, but is seen by then.
    have hsub : below ⊆ seen ++ t :: below := fun u hu =>
      List.mem_append_right _ (List.mem_cons_of_mem t hu)
    refine .list hnew hbelow (inPreorder_append_iff.mpr ⟨[], added, rfl, ?_, ?_⟩)
    · exact inPreorder_of_subset hsub
    · simpa using ih

/-- A visit lists in preorder. -/
theorem exists_inPreorder_visit {all stack : List TokenId} {fuel : Nat}
    (hall : ∀ p c, Child children p c → c ∈ all) (h : UnderWay children all fuel stack seen) :
    ∃ added, visit children fuel stack seen = seen ++ added ∧
      InPreorder children seen stack added := by
  fun_induction visit children fuel stack seen with
  | case1 fuel seen => exact ⟨[], (List.append_nil seen).symm, .nil⟩
  | case2 t stack seen =>
    exact ⟨[], (List.append_nil seen).symm,
      inPreorder_of_subset fun u hu => h.all_sub (h.stack_sub hu)⟩
  | case3 fuel t stack seen ht ih =>
    have ht : t ∈ seen := by simpa using ht
    obtain ⟨added, heq, hadded⟩ := ih (h.skip ht)
    exact ⟨added, heq, .skip ht hadded⟩
  | case4 fuel t stack seen ht ih =>
    have ht : t ∉ seen := by simpa using ht
    obtain ⟨added, heq, hadded⟩ := ih (h.descend hall ht)
    obtain ⟨below, rest, rfl, hbelow, hrest⟩ := inPreorder_append_iff.mp hadded
    exact ⟨t :: below ++ rest, by simpa using heq, .list ht hbelow (by simpa using hrest)⟩

/-! ## The visit as a loop -/

/-- Each round takes a token off the stack, and puts its children there if it is new. If the
rounds do not suffice, there is no result. -/
def loop (children : Assoc TokenId (List TokenId)) :
    (rounds : Nat) → (stack seen : List TokenId) → Option (List TokenId)
  | _, [], seen => some seen
  | 0, _ :: _, _ => none
  | rounds + 1, t :: stack, seen =>
    if t ∈ seen then loop children rounds stack seen
    else loop children rounds (childrenIn children t ++ stack) (seen ++ [t])

/-- Every token on the stack costs a round, and so does every child of what is listed. -/
theorem InPreorder.loop_append (h : InPreorder children seen tokens added) (rounds : Nat)
    (stack : List TokenId) :
    loop children (rounds + (tokens ++ added.flatMap (childrenIn children)).length)
      (tokens ++ stack) seen = loop children rounds stack (seen ++ added) := by
  -- The stack is any: what is below a token is visited on top of the later tokens.
  induction h generalizing rounds stack with
  | nil => simp
  | @skip seen tokens added t hmem _ ih =>
    rw [List.cons_append, List.cons_append, List.length_cons, ← Nat.add_assoc, loop, if_pos hmem]
    exact ih rounds stack
  | @list seen tokens below added t hnew _ _ ihbelow ihrest =>
    have hrounds : rounds +
        (t :: tokens ++ (t :: below ++ added).flatMap (childrenIn children)).length = rounds +
          (tokens ++ added.flatMap (childrenIn children)).length +
          (childrenIn children t ++ below.flatMap (childrenIn children)).length + 1 := by
      simp only [List.cons_append, List.flatMap_cons, List.flatMap_append, List.length_append,
        List.length_cons]
      omega
    rw [hrounds, List.cons_append, loop, if_neg hnew, ihbelow, List.append_assoc,
      List.singleton_append, ihrest, List.append_assoc]

end Descendants

open Descendants

theorem inPreorder_withDescendants (tokens : List TokenId)
    (children : Assoc TokenId (List TokenId)) :
    InPreorder children [] tokens (withDescendants tokens children) := by
  obtain ⟨added, heq, hadded⟩ :=
    exists_inPreorder_visit (fun _ _ => mem_mentioned_of_child) (underWay_visitAll tokens children)
  rw [withDescendants_eq_visitAll, visitAll, heq]
  exact hadded

/-- **Preorder.** The result has no repetition, holds what the tokens lead to, and stands in
preorder. A loop over a stack ends with it, also for leaves, which are listed without a loop.
Nothing is to be added to it. -/
theorem withDescendants_preorder (tokens : List TokenId)
    (children : Assoc TokenId (List TokenId)) :
    (withDescendants tokens children).Nodup ∧
      (∀ t, t ∈ withDescendants tokens children ↔
        ∃ s ∈ tokens, ReflTransGen (Child children) s t) ∧
      (∀ listed, InPreorder children [] tokens listed ↔
        listed = withDescendants tokens children) ∧
      loop children
          (tokens ++ (withDescendants tokens children).flatMap (childrenIn children)).length
          tokens [] = some (withDescendants tokens children) ∧
      (areLeaves tokens children = true → withDescendants tokens children = tokens ∧
        loop children tokens.length tokens [] = some tokens) ∧
      withDescendants (withDescendants tokens children) children =
        withDescendants tokens children := by
  have hpre := inPreorder_withDescendants tokens children
  have hloop : loop children
      (tokens ++ (withDescendants tokens children).flatMap (childrenIn children)).length
      tokens [] = some (withDescendants tokens children) := by
    have h := hpre.loop_append 0 []
    rw [Nat.zero_add, List.append_nil, List.nil_append] at h
    rw [h, loop]
  refine ⟨nodup_withDescendants tokens children, fun t => mem_withDescendants_iff, fun listed => ?_,
    hloop, fun hleaves => ?_, ?_⟩
  · exact ⟨fun h => h.unique hpre, fun h => h ▸ hpre⟩
  · have heq : withDescendants tokens children = tokens := if_pos hleaves
    have hnone : tokens.flatMap (childrenIn children) = [] :=
      List.flatMap_eq_nil_iff.mpr (childrenIn_of_areLeaves hleaves)
    rw [heq, hnone, List.append_nil] at hloop
    exact ⟨heq, hloop⟩
  · exact (inPreorder_withDescendants _ children).unique hpre.again

/-- A token that two others lead to, and one that leads back. -/
def tangle : Assoc TokenId (List TokenId) := [(1, [2, 3]), (2, [4]), (3, [4, 1])]

/-- The shared token is listed where it comes first, and seven rounds are needed for it. -/
theorem withDescendants_tangle :
    withDescendants [3, 1] tangle = [3, 4, 1, 2] ∧ loop tangle 7 [3, 1] [] = some [3, 4, 1, 2] ∧
      loop tangle 6 [3, 1] [] = none ∧
      areLeaves [6, 4] tangle = true ∧ loop tangle 2 [6, 4] [] = some [6, 4] := by
  obtain ⟨-, -, -, hloop, -, -⟩ := withDescendants_preorder [3, 1] tangle
  obtain ⟨-, -, -, -, hleaves, -⟩ := withDescendants_preorder [6, 4] tangle
  have heq : withDescendants [3, 1] tangle = [3, 4, 1, 2] := by
    simp [withDescendants_eq_visitAll, visitAll, mentioned, visit, childrenIn, tangle, Assoc.get?]
  have hdistinct : areLeaves [6, 4] tangle = true := by decide
  rw [heq] at hloop
  exact ⟨heq, hloop, rfl, hdistinct, (hleaves hdistinct).2⟩

end GrammarKit
