import GrammarKit.Proofs.Token.Lineage

/-!
# Circles of parents

Going from a declaration to its parent, and on from there, ends at a declaration
without parent or runs in a circle. A declaration is on a circle if it is its own
ancestor (`OwnAncestor`), and it leads into one (`LeadsIntoCircle`) if one of its
ancestors is, which takes in those that only hang below it.

`chainEnds_iff`: with as many links as there are declarations, the walk along the
parents ends exactly if it leads into no circle. A circle is never left, whatever the
fuel. A walk that is not at its end after as many links has come along more declarations
than there are, so it was at one of them twice (`exists_ownAncestor_of_long`). Neither
direction asks that parents are declared.
-/
namespace GrammarKit.TokenTable

open Relation

variable {decls : List TokenDecl} {id p : TokenId}

/-- The declaration `id` names `parent` as its parent. -/
def ChildOf (decls : List TokenDecl) (id parent : TokenId) : Prop :=
  ∃ d link, decls[id]? = some d ∧ d.parent = some link ∧ link.id = parent

/-- Going on from parent to parent comes back. -/
def OwnAncestor (decls : List TokenDecl) (id : TokenId) : Prop :=
  TransGen (ChildOf decls) id id

/-- Going on from parent to parent comes to a declaration that is its own ancestor. -/
def LeadsIntoCircle (decls : List TokenDecl) (id : TokenId) : Prop :=
  ∃ a, ReflTransGen (ChildOf decls) id a ∧ OwnAncestor decls a

/-- The link to the parent of a declaration. -/
def parentLink? (decls : List TokenDecl) (id : TokenId) : Option ParentLink :=
  decls[id]?.bind (·.parent)

theorem childOf_iff : ChildOf decls id p ↔ ∃ link, parentLink? decls id = some link ∧ link.id = p := by
  unfold ChildOf parentLink?
  constructor
  · rintro ⟨d, link, hd, hlink, hp⟩
    exact ⟨link, Option.bind_eq_some_iff.mpr ⟨d, hd, hlink⟩, hp⟩
  · rintro ⟨link, hbind, hp⟩
    obtain ⟨d, hd, hlink⟩ := Option.bind_eq_some_iff.mp hbind
    exact ⟨d, link, hd, hlink, hp⟩

theorem ChildOf.lt_length (h : ChildOf decls id p) : id < decls.length := by
  obtain ⟨d, link, hd, -⟩ := h
  exact (List.getElem?_eq_some_iff.mp hd).1

theorem OwnAncestor.leadsIntoCircle (h : OwnAncestor decls id) : LeadsIntoCircle decls id :=
  ⟨id, .refl, h⟩

/-- A circle is not left. -/
theorem LeadsIntoCircle.exists_parent (h : LeadsIntoCircle decls id) :
    ∃ p, ChildOf decls id p ∧ LeadsIntoCircle decls p := by
  obtain ⟨a, hreach, hcircle⟩ := h
  rcases hreach.cases_head with rfl | ⟨p, hp, hreach⟩
  · obtain ⟨p, hp, hback⟩ := TransGen.head'_iff.mp hcircle
    exact ⟨p, hp, id, hback, hcircle⟩
  · exact ⟨p, hp, a, hreach, hcircle⟩

/-- No fuel brings a walk to the end of a circle. -/
theorem not_chainEnds_of_circle (h : LeadsIntoCircle decls id) (fuel : Nat) :
    chainEnds decls fuel (parentLink? decls id) = false := by
  induction fuel generalizing id with
  | zero =>
    obtain ⟨p, hp, -⟩ := h.exists_parent
    obtain ⟨link, hlink, -⟩ := childOf_iff.mp hp
    rw [hlink]
    rfl
  | succ fuel ih =>
    obtain ⟨p, hp, hcircle⟩ := h.exists_parent
    obtain ⟨link, hlink, rfl⟩ := childOf_iff.mp hp
    rw [hlink]
    exact ih hcircle

/-- A walk that is not at its end goes on to a parent. -/
theorem exists_parent_of_not_chainEnds {fuel : Nat}
    (h : chainEnds decls fuel (parentLink? decls id) = false) :
    ∃ p, ChildOf decls id p ∧
      ∀ n, fuel = n + 1 → chainEnds decls n (parentLink? decls p) = false := by
  cases hlink : parentLink? decls id with
  | none =>
    rw [hlink] at h
    cases fuel <;> cases h
  | some link =>
    refine ⟨link.id, childOf_iff.mpr ⟨link, hlink, rfl⟩, ?_⟩
    rintro n rfl
    rw [hlink] at h
    exact h

/-- By then it has come along one declaration more than links. -/
theorem exists_walk_of_not_chainEnds {fuel : Nat}
    (h : chainEnds decls fuel (parentLink? decls id) = false) :
    ∃ walk, (id :: walk).IsChain (ChildOf decls) ∧ walk.length = fuel ∧
      ∀ a ∈ id :: walk, a < decls.length := by
  induction fuel generalizing id with
  | zero =>
    obtain ⟨p, hp, -⟩ := exists_parent_of_not_chainEnds h
    exact ⟨[], .singleton _, rfl, List.forall_mem_singleton.mpr hp.lt_length⟩
  | succ fuel ih =>
    obtain ⟨p, hp, hnext⟩ := exists_parent_of_not_chainEnds h
    obtain ⟨walk, hchain, hlength, hlt⟩ := ih (hnext fuel rfl)
    exact ⟨p :: walk, .cons_cons hp hchain, congrArg (· + 1) hlength,
      List.forall_mem_cons.mpr ⟨hp.lt_length, hlt⟩⟩

theorem reaches_of_mem_walk {walk : List TokenId} (h : (id :: walk).IsChain (ChildOf decls)) :
    ∀ a ∈ id :: walk, ReflTransGen (ChildOf decls) id a := by
  have hpairs : (id :: walk).Pairwise (ReflTransGen (ChildOf decls)) :=
    List.isChain_iff_pairwise.mp (h.imp fun _ _ hp => .single hp)
  exact List.forall_mem_cons.mpr ⟨.refl, (List.pairwise_cons.mp hpairs).1⟩

/-- A walk along more declarations than there are is twice at one of them. -/
theorem exists_ownAncestor_of_long {walk : List TokenId} (hchain : walk.IsChain (ChildOf decls))
    (hlt : ∀ a ∈ walk, a < decls.length) (hlong : decls.length < walk.length) :
    ∃ a ∈ walk, OwnAncestor decls a := by
  by_contra hnone
  have hpairs : walk.Pairwise (TransGen (ChildOf decls)) :=
    List.isChain_iff_pairwise.mp (hchain.imp fun _ _ h => .single h)
  have hnodup : walk.Nodup := hpairs.imp_of_mem fun ha _ hback heq => by
    subst heq
    exact hnone ⟨_, ha, hback⟩
  have hsub : walk ⊆ List.range decls.length := fun a ha => List.mem_range.mpr (hlt a ha)
  have hle := (hnodup.subperm hsub).length_le
  rw [List.length_range] at hle
  omega

/-- **A walk ends exactly if it leads into no circle.** As many links as there are
declarations are enough to tell. -/
theorem chainEnds_iff :
    chainEnds decls decls.length (parentLink? decls id) = true ↔ ¬ LeadsIntoCircle decls id := by
  constructor
  · intro h hcircle
    rw [not_chainEnds_of_circle hcircle] at h
    cases h
  · intro hnone
    by_contra h
    obtain ⟨walk, hchain, hlength, hlt⟩ := exists_walk_of_not_chainEnds (Bool.eq_false_iff.mpr h)
    obtain ⟨a, ha, hcircle⟩ :=
      exists_ownAncestor_of_long hchain hlt (by rw [List.length_cons]; omega)
    exact hnone ⟨a, reaches_of_mem_walk hchain a ha, hcircle⟩

/-- No declaration is its own ancestor exactly if none leads to one that is. -/
theorem forall_not_ownAncestor_iff :
    (∀ id, ¬ OwnAncestor decls id) ↔ ∀ id, ¬ LeadsIntoCircle decls id :=
  ⟨fun h _ ⟨a, _, hcircle⟩ => h a hcircle, fun h id hcircle => h id hcircle.leadsIntoCircle⟩

end GrammarKit.TokenTable
