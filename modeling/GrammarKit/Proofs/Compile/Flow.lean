import GrammarKit.Compile.Flow
import GrammarKit.Proofs.TokenSet
import Mathlib

/-!
# What flows where

After `spread` a place holds exactly the tokens that some place leading to it
held at first (`mem_spread_iff`), for every graph of edges between the places,
cycles and repeated edges included.

`Valid` holds along the whole run. That nothing is forgotten is a second
invariant, `Pending`: where an edge has something left to carry, its source
waits. Serving a place settles its edges one by one (`along_pending`) and lets
no other edge get worse unless its source waits again.

The fuel lasts because every place that is queued again has grown, and all sets
together cannot grow beyond the number of places times the number of tokens
(`total_le`).
-/
namespace GrammarKit.Compile

open Relation (ReflTransGen)
open TokenSet (Ascending)

/-- Tokens flow from `i` to `j`. -/
def Edge (edges : Array (List Nat)) (i j : Nat) : Prop := j ∈ edges.getD i []

namespace Flow

/-! ## One edge -/

/-- What `along` does: nothing, or the target grows and waits. -/
theorem along_cases (source : Nat) (f : Flow) (target : Nat) :
    (along source f target = f ∧
      (target = source ∨ (TokenSet.diff (f.set source) (f.set target)).isEmpty = true)) ∨
    (target ≠ source ∧ (TokenSet.diff (f.set source) (f.set target)).isEmpty = false ∧
      (along source f target).sets =
        f.sets.setIfInBounds target (TokenSet.union (f.set source) (f.set target)) ∧
      (along source f target).updates = f.updates + 1 ∧
      ((f.waiting.getD target true = true ∧ (along source f target).waiting = f.waiting ∧
          (along source f target).queue = f.queue) ∨
        ((along source f target).waiting = f.waiting.setIfInBounds target true ∧
          (along source f target).queue = f.queue.push target))) := by
  unfold along
  split
  · rename_i h; exact Or.inl ⟨rfl, Or.inl h⟩
  · split
    · rename_i h; exact Or.inl ⟨rfl, Or.inr h⟩
    · rename_i hne hdiff
      refine Or.inr ⟨hne, by simpa using hdiff, ?_⟩
      simp only
      split
      · rename_i hw; exact ⟨rfl, rfl, Or.inl ⟨hw, rfl, rfl⟩⟩
      · exact ⟨rfl, rfl, Or.inr ⟨rfl, rfl⟩⟩

theorem set_of_sets {f g : Flow} {target : Nat} {s : TokenSet}
    (h : g.sets = f.sets.setIfInBounds target s) (i : Nat) :
    g.set i = if i = target ∧ target < f.sets.size then s else f.set i := by
  unfold set
  rw [h]
  simp only [Array.getD_eq_getD_getElem?, Array.getElem?_setIfInBounds]
  by_cases hi : target = i
  · subst hi
    by_cases hlt : target < f.sets.size
    · simp [hlt]
    · simp [hlt]
  · simp [hi, Ne.symm hi]

/-! ## The invariant -/

/-- What holds of the sets and the queue all along, for the sets `seed` at first. -/
structure Valid (edges : Array (List Nat)) (seed : Array TokenSet) (f : Flow) : Prop where
  size_sets : f.sets.size = seed.size
  size_waiting : f.waiting.size = seed.size
  ascending : ∀ i, Ascending (f.set i)
  grown : ∀ i, ∀ t ∈ seed.getD i [], t ∈ f.set i
  reached : ∀ j, ∀ t ∈ f.set j, ∃ i, ReflTransGen (Edge edges) i j ∧ t ∈ seed.getD i []
  queued : ∀ i < seed.size, f.waiting.getD i true = true → i ∈ f.queue.toList
  updates_le : f.updates ≤ ((List.range seed.size).map fun i => (f.set i).length).sum

/-- All that the set at `i` holds has come to `j`. -/
def Settled (f : Flow) (i j : Nat) : Prop := ∀ t ∈ f.set i, t ∈ f.set j

/-- An edge that is not settled starts at a place that waits, or is one of the
edges from `source` to `targets`. -/
def Pending (edges : Array (List Nat)) (source : Nat) (targets : List Nat) (f : Flow) : Prop :=
  ∀ i j, Edge edges i j → i ∈ f.queue.toList ∨ (i = source ∧ j ∈ targets) ∨ f.Settled i j

section Along

variable {edges : Array (List Nat)} {seed : Array TokenSet} {f : Flow} {source target : Nat}

/-- What has grown waits; everything else is as it was. -/
theorem along_frame (h : Valid edges seed f) (source target : Nat) (i : Nat) :
    (i = target ∧ i ∈ (along source f target).queue.toList ∧
        (along source f target).set i = TokenSet.union (f.set source) (f.set target)) ∨
      (along source f target).set i = f.set i := by
  rcases along_cases source f target with ⟨heq, -⟩ | ⟨-, -, hsets, -, hq⟩
  · exact Or.inr (by rw [heq])
  · rw [set_of_sets hsets]
    split
    · rename_i hi
      obtain ⟨rfl, hlt⟩ := hi
      refine Or.inl ⟨rfl, ?_, rfl⟩
      rcases hq with ⟨hw, -, hq⟩ | ⟨-, hq⟩
      · rw [hq]; exact h.queued i (by rw [← h.size_sets]; exact hlt) hw
      · rw [hq, Queue.toList_push]; simp
    · exact Or.inr rfl

theorem mem_along (h : Valid edges seed f) {i : Nat} {t : TokenId} (ht : t ∈ f.set i) :
    t ∈ (along source f target).set i := by
  rcases along_frame h source target i with ⟨rfl, -, hs⟩ | hs
  · rw [hs]; exact TokenSet.mem_union.mpr (Or.inr ht)
  · rw [hs]; exact ht

theorem queue_along {i : Nat} (hi : i ∈ f.queue.toList) :
    i ∈ (along source f target).queue.toList := by
  rcases along_cases source f target with ⟨heq, -⟩ | ⟨-, -, -, -, ⟨-, -, hq⟩ | ⟨-, hq⟩⟩
  · rw [heq]; exact hi
  · rw [hq]; exact hi
  · rw [hq, Queue.toList_push]; exact List.mem_append_left _ hi

/-- The source itself does not grow. -/
theorem set_source_along (f : Flow) (source target : Nat) :
    (along source f target).set source = f.set source := by
  rcases along_cases source f target with ⟨heq, -⟩ | ⟨hne, -, hsets, -, -⟩
  · rw [heq]
  · rw [set_of_sets hsets, if_neg]
    intro h
    obtain ⟨rfl, -⟩ := h
    exact hne rfl

/-- The edge is settled. -/
theorem settled_along (h : Valid edges seed f) (hlt : target < seed.size) :
    (along source f target).Settled source target := by
  intro t ht
  rw [set_source_along] at ht
  rcases along_cases source f target with ⟨heq, rfl | hdiff⟩ | ⟨-, -, hsets, -, -⟩
  · rw [heq]; exact ht
  · rw [heq]
    exact (TokenSet.isEmpty_diff_iff (h.ascending source) (h.ascending target)).mp hdiff t ht
  · rw [set_of_sets hsets, if_pos ⟨rfl, by rw [h.size_sets]; exact hlt⟩]
    exact TokenSet.mem_union.mpr (Or.inl ht)

/-- A place is queued only for a set that grew. -/
theorem measure_along (f : Flow) (source target : Nat) :
    (along source f target).queue.toList.length + f.updates ≤
      f.queue.toList.length + (along source f target).updates := by
  rcases along_cases source f target with ⟨heq, -⟩ | ⟨-, -, -, hu, ⟨-, -, hq⟩ | ⟨-, hq⟩⟩
  · rw [heq]
  · rw [hq, hu]; omega
  · rw [hq, hu, Queue.toList_push]; simp; omega

theorem along_updates_le (h : Valid edges seed f) (hlt : target < seed.size) :
    (along source f target).updates ≤
      ((List.range seed.size).map fun i => ((along source f target).set i).length).sum := by
  rcases along_cases source f target with ⟨heq, -⟩ | ⟨-, hdiff, hsets, hu, -⟩
  · rw [heq]; exact h.updates_le
  · rw [hu]
    have hgrow := TokenSet.length_union_lt (h.ascending target) hdiff (h.ascending source)
    have hlt' : target < f.sets.size := by rw [h.size_sets]; exact hlt
    have hset : (along source f target).set target =
        TokenSet.union (f.set source) (f.set target) := by
      rw [set_of_sets hsets, if_pos ⟨rfl, hlt'⟩]
    refine Nat.lt_of_le_of_lt h.updates_le (List.sum_lt_sum _ _ ?_ ⟨target, ?_, ?_⟩)
    · intro i _
      rw [set_of_sets hsets]
      split
      · rename_i hi
        obtain ⟨rfl, -⟩ := hi
        exact Nat.le_of_lt hgrow
      · exact Nat.le_refl _
    · exact List.mem_range.mpr hlt
    · rw [hset]; exact hgrow

theorem along_valid (h : Valid edges seed f) (hedge : Edge edges source target)
    (hlt : target < seed.size) : Valid edges seed (along source f target) := by
  have hcases := along_cases source f target
  refine ⟨?_, ?_, ?_, fun i t ht => mem_along h (h.grown i t ht), ?_, ?_, along_updates_le h hlt⟩
  · rcases hcases with ⟨heq, -⟩ | ⟨-, -, hsets, -, -⟩
    · rw [heq]; exact h.size_sets
    · rw [hsets, Array.size_setIfInBounds]; exact h.size_sets
  · rcases hcases with ⟨heq, -⟩ | ⟨-, -, -, -, ⟨-, hw, -⟩ | ⟨hw, -⟩⟩
    · rw [heq]; exact h.size_waiting
    · rw [hw]; exact h.size_waiting
    · rw [hw, Array.size_setIfInBounds]; exact h.size_waiting
  · intro i
    rcases along_frame h source target i with ⟨-, -, hs⟩ | hs
    · rw [hs]; exact TokenSet.ascending_union (h.ascending source) (h.ascending target)
    · rw [hs]; exact h.ascending i
  · intro j t ht
    rcases along_frame h source target j with ⟨rfl, -, hs⟩ | hs
    · rw [hs] at ht
      rcases TokenSet.mem_union.mp ht with ht | ht
      · obtain ⟨i, hi, hti⟩ := h.reached source t ht
        exact ⟨i, hi.tail hedge, hti⟩
      · exact h.reached j t ht
    · rw [hs] at ht; exact h.reached j t ht
  · intro i hi hw
    rcases hcases with ⟨heq, -⟩ | ⟨-, -, -, -, ⟨-, hw', -⟩ | ⟨hw', hq⟩⟩
    · rw [heq] at hw ⊢; exact h.queued i hi hw
    · rw [hw'] at hw; exact queue_along (h.queued i hi hw)
    · by_cases hit : i = target
      · subst hit; rw [hq, Queue.toList_push]; simp
      · refine queue_along (h.queued i hi ?_)
        rw [hw', Array.getD_eq_getD_getElem?, Array.getElem?_setIfInBounds,
          if_neg (Ne.symm hit)] at hw
        rwa [Array.getD_eq_getD_getElem?]

/-- Serving an edge takes it off the list of edges to serve. -/
theorem along_pending {targets : List Nat} (h : Valid edges seed f) (hlt : target < seed.size)
    (hp : Pending edges source (target :: targets) f) :
    Pending edges source targets (along source f target) := by
  intro i j hij
  rcases hp i j hij with hq | ⟨rfl, hj⟩ | hs
  · exact Or.inl (queue_along hq)
  · rcases List.mem_cons.mp hj with rfl | hj
    · exact Or.inr (Or.inr (settled_along h hlt))
    · exact Or.inr (Or.inl ⟨rfl, hj⟩)
  · -- a settled edge stays so unless its source has grown, and then it waits
    rcases along_frame h source target i with ⟨-, hq, -⟩ | hi
    · exact Or.inl hq
    · refine Or.inr (Or.inr ?_)
      intro t ht
      rw [hi] at ht
      exact mem_along h (hs t ht)

end Along

/-! ## One place -/

section Visit

variable {edges : Array (List Nat)} {seed : Array TokenSet}

theorem foldl_along (hedges : ∀ i j, Edge edges i j → j < seed.size) {source : Nat}
    (targets : List Nat) (htargets : ∀ j ∈ targets, Edge edges source j) (f : Flow)
    (h : Valid edges seed f) (hp : Pending edges source targets f) :
    Valid edges seed (targets.foldl (along source) f) ∧
      Pending edges source [] (targets.foldl (along source) f) ∧
      (targets.foldl (along source) f).queue.toList.length + f.updates ≤
        f.queue.toList.length + (targets.foldl (along source) f).updates := by
  induction targets generalizing f with
  | nil => exact ⟨h, hp, Nat.le_refl _⟩
  | cons target targets ih =>
    have hedge := htargets target List.mem_cons_self
    have hlt := hedges _ _ hedge
    obtain ⟨h1, h2, h3⟩ := ih (fun j hj => htargets j (List.mem_cons_of_mem _ hj))
      (along source f target) (along_valid h hedge hlt) (along_pending h hlt hp)
    have h4 := measure_along f source target
    exact ⟨h1, h2, by rw [List.foldl_cons]; omega⟩

/-- Taking a place off the queue. -/
theorem valid_pop {f : Flow} (h : Valid edges seed f) {source : Nat} {queue : Queue}
    (hpop : f.queue.pop? = some (source, queue)) :
    Valid edges seed { f with queue, waiting := f.waiting.setIfInBounds source false } := by
  have hlist := Queue.toList_eq_of_pop? hpop
  refine ⟨h.size_sets, by simpa using h.size_waiting, h.ascending, h.grown, h.reached, ?_,
    h.updates_le⟩
  intro i hi hw
  rw [Array.getD_eq_getD_getElem?, Array.getElem?_setIfInBounds] at hw
  by_cases hsi : source = i
  · subst hsi
    rw [if_pos rfl, if_pos (by rw [h.size_waiting]; exact hi)] at hw
    cases hw
  · rw [if_neg hsi, ← Array.getD_eq_getD_getElem?] at hw
    have := h.queued i hi hw
    rw [hlist] at this
    rcases List.mem_cons.mp this with rfl | this
    · exact absurd rfl hsi
    · exact this

/-- Serving a place settles all its edges. -/
theorem visit_spec (hedges : ∀ i j, Edge edges i j → j < seed.size) {f : Flow}
    (h : Valid edges seed f) (hp : Pending edges 0 [] f) {source : Nat} {queue : Queue}
    (hpop : f.queue.pop? = some (source, queue)) :
    Valid edges seed (visit edges { f with queue } source) ∧
      Pending edges 0 [] (visit edges { f with queue } source) ∧
      (visit edges { f with queue } source).queue.toList.length + f.updates + 1 ≤
        f.queue.toList.length + (visit edges { f with queue } source).updates := by
  have hlist := Queue.toList_eq_of_pop? hpop
  have hpend : Pending edges source (edges.getD source [])
      { f with queue, waiting := f.waiting.setIfInBounds source false } := by
    intro i j hij
    rcases hp i j hij with hq | ⟨-, hj⟩ | hs
    · rw [hlist] at hq
      rcases List.mem_cons.mp hq with rfl | hq
      · exact Or.inr (Or.inl ⟨rfl, hij⟩)
      · exact Or.inl hq
    · cases hj
    · exact Or.inr (Or.inr hs)
  obtain ⟨h1, h2, h3⟩ := foldl_along hedges _ (fun j hj => hj) _ (valid_pop h hpop) hpend
  refine ⟨h1, ?_, ?_⟩
  · intro i j hij
    rcases h2 i j hij with hq | ⟨-, hj⟩ | hs
    · exact Or.inl hq
    · cases hj
    · exact Or.inr (Or.inr hs)
  · rw [hlist, List.length_cons]
    simp only at h3
    change (visit edges { f with queue } source).queue.toList.length + _ ≤ _ at h3
    unfold visit at h3 ⊢
    simp only at h3 ⊢
    omega

end Visit

/-! ## The whole run -/

section Settle

variable {edges : Array (List Nat)} {seed : Array TokenSet}

/-- All sets together are no larger than places times tokens. -/
theorem total_le {f : Flow} (h : Valid edges seed f) :
    ((List.range seed.size).map fun i => (f.set i).length).sum ≤
      seed.size * (TokenSet.ofList seed.toList.flatten).length := by
  have hle : ∀ n ∈ (List.range seed.size).map fun i => (f.set i).length,
      n ≤ (TokenSet.ofList seed.toList.flatten).length := by
    intro n hn
    obtain ⟨j, -, rfl⟩ := List.mem_map.mp hn
    refine TokenSet.length_le (h.ascending j) ?_
    intro t ht
    obtain ⟨i, -, hti⟩ := h.reached j t ht
    rw [TokenSet.mem_ofList, List.mem_flatten]
    rw [Array.getD_eq_getD_getElem?] at hti
    cases hi : seed[i]? with
    | none => rw [hi] at hti; cases hti
    | some s =>
      rw [hi] at hti
      exact ⟨s, Array.mem_toList_iff.mpr (Array.mem_of_getElem? hi), hti⟩
  have := List.sum_le_card_nsmul _ _ hle
  simpa using this

theorem settle_spec (hedges : ∀ i j, Edge edges i j → j < seed.size) (fuel : Nat) (f : Flow)
    (h : Valid edges seed f) (hp : Pending edges 0 [] f)
    (hfuel : f.queue.toList.length + seed.size * (TokenSet.ofList seed.toList.flatten).length ≤
      fuel + f.updates) :
    Valid edges seed (settle edges fuel f) ∧
      ∀ i j, Edge edges i j → (settle edges fuel f).Settled i j := by
  have hdone : f.queue.toList = [] → ∀ i j, Edge edges i j → f.Settled i j := by
    intro hnil i j hij
    rcases hp i j hij with hq | ⟨-, hj⟩ | hs
    · rw [hnil] at hq; cases hq
    · cases hj
    · exact hs
  induction fuel generalizing f with
  | zero =>
    have h1 := h.updates_le
    have h2 := total_le h
    exact ⟨h, hdone (List.eq_nil_of_length_eq_zero (by omega))⟩
  | succ fuel ih =>
    unfold settle
    split
    · rename_i hpop
      exact ⟨h, hdone (Queue.pop?_eq_none_iff.mp hpop)⟩
    · rename_i i queue hpop
      obtain ⟨h1, h2, h3⟩ := visit_spec hedges h hp hpop
      refine ih _ h1 h2 (by omega) ?_
      intro hnil i j hij
      rcases h2 i j hij with hq | ⟨-, hj⟩ | hs
      · rw [hnil] at hq; cases hq
      · cases hj
      · exact hs

theorem start_valid (hasc : ∀ i, Ascending (seed.getD i [])) : Valid edges seed (start seed) := by
  refine ⟨rfl, by simp [start], hasc, fun i t ht => ht, fun j t ht => ⟨j, .refl, ht⟩, ?_,
    Nat.zero_le _⟩
  intro i hi _
  simpa [start, Queue.toList] using hi

end Settle

end Flow

/-! ## The result -/

section Spread

variable {edges : Array (List Nat)} {seed : Array TokenSet}

theorem spread_settled (hasc : ∀ i, Ascending (seed.getD i []))
    (hedges : ∀ i j, Edge edges i j → j < seed.size)
    (hsources : ∀ i j, Edge edges i j → i < seed.size) :
    ∃ f : Flow, (spread seed edges).1 = f.sets ∧ Flow.Valid edges seed f ∧
      ∀ i j, Edge edges i j → f.Settled i j := by
  have hpend : Flow.Pending edges 0 [] (Flow.start seed) := by
    intro i j hij
    have := hsources i j hij
    exact Or.inl (by simpa [Flow.start, Queue.toList] using this)
  obtain ⟨h1, h2⟩ := Flow.settle_spec hedges (flowBound seed) (Flow.start seed)
    (Flow.start_valid hasc) hpend (by simp [Flow.start, Queue.toList, flowBound])
  exact ⟨_, rfl, h1, h2⟩

theorem ascending_spread (hasc : ∀ i, Ascending (seed.getD i []))
    (hedges : ∀ i j, Edge edges i j → j < seed.size)
    (hsources : ∀ i j, Edge edges i j → i < seed.size) (i : Nat) :
    Ascending ((spread seed edges).1.getD i []) := by
  obtain ⟨f, hf, hv, -⟩ := spread_settled hasc hedges hsources
  rw [hf]
  exact hv.ascending i

/-- **What flows where.** A place ends up with the tokens of all places that lead
to it. -/
theorem mem_spread_iff (hasc : ∀ i, Ascending (seed.getD i []))
    (hedges : ∀ i j, Edge edges i j → j < seed.size)
    (hsources : ∀ i j, Edge edges i j → i < seed.size) {j : Nat} {t : TokenId} :
    t ∈ (spread seed edges).1.getD j [] ↔
      ∃ i, ReflTransGen (Edge edges) i j ∧ t ∈ seed.getD i [] := by
  obtain ⟨f, hf, hv, hs⟩ := spread_settled hasc hedges hsources
  rw [hf]
  constructor
  · exact hv.reached j t
  · intro h
    obtain ⟨i, hij, ht⟩ := h
    have hfi := hv.grown i t ht
    induction hij with
    | refl => exact hfi
    | tail _ hedge ih => exact hs _ _ hedge t ih

end Spread

end GrammarKit.Compile
