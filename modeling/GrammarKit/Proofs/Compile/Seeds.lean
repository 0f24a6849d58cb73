import GrammarKit.Compile.TokenSets
import GrammarKit.Proofs.Compile.Flow

/-!
# Seeds of token sets

The seeds of a pass are made by many small additions, each of which adds tokens
to some places and edges between others and takes nothing away. `Adds` says so
of one operation, and adding one thing after another adds both (`adds_rules` for
the rules of a list).

`Adds.mem_settle_iff` says what the seeds come to once everything has flowed.
-/
namespace GrammarKit.Compile.Seeds

open Relation (ReflTransGen)
open TokenSet (Ascending)

/-- The set at place `i` has the token at first. -/
def Holds (s : Seeds) (i : Nat) (t : TokenId) : Prop := t ∈ s.sets.getD i []

/-- There is an edge from `i` to `j`. -/
def Links (s : Seeds) (i j : Nat) : Prop := j ∈ s.edges.getD i []

/-- Seeds for `n` places, with ascending sets. -/
structure Sized (n : Nat) (s : Seeds) : Prop where
  sets : s.sets.size = n
  edges : s.edges.size = n
  ascending : ∀ i, Ascending (s.sets.getD i [])

/-- The operation adds the tokens `P` and the edges `E`, and nothing else. -/
structure Adds (n : Nat) (op : Seeds → Seeds) (P : Nat → TokenId → Prop) (E : Nat → Nat → Prop) :
    Prop where
  sized : ∀ s, Sized n s → Sized n (op s)
  holds : ∀ s, Sized n s → ∀ i t, (op s).Holds i t ↔ s.Holds i t ∨ P i t
  links : ∀ s, Sized n s → ∀ i j, (op s).Links i j ↔ s.Links i j ∨ E i j

section Adds

variable {n : Nat}

/-- The same tokens and edges, said differently. -/
theorem Adds.congr {op : Seeds → Seeds} {P P' : Nat → TokenId → Prop} {E E' : Nat → Nat → Prop}
    (h : Adds n op P E) (hP : ∀ i t, P i t ↔ P' i t) (hE : ∀ i j, E i j ↔ E' i j) :
    Adds n op P' E' :=
  ⟨h.sized, fun s hs i t => by rw [h.holds s hs, hP], fun s hs i j => by rw [h.links s hs, hE]⟩

theorem adds_nothing : Adds n (fun s => s) (fun _ _ => False) (fun _ _ => False) :=
  ⟨fun _ hs => hs, fun _ _ _ _ => (or_false _).symm.to_iff, fun _ _ _ _ => (or_false _).symm.to_iff⟩

/-- One addition after another. -/
theorem Adds.comp {op op' : Seeds → Seeds} {P P' : Nat → TokenId → Prop}
    {E E' : Nat → Nat → Prop} (h : Adds n op P E) (h' : Adds n op' P' E') :
    Adds n (fun s => op' (op s)) (fun i t => P i t ∨ P' i t) (fun i j => E i j ∨ E' i j) := by
  refine ⟨fun s hs => h'.sized _ (h.sized s hs), ?_, ?_⟩
  · intro s hs i t
    rw [h'.holds _ (h.sized s hs), h.holds s hs, or_assoc]
  · intro s hs i j
    rw [h'.links _ (h.sized s hs), h.links s hs, or_assoc]

/-- An addition for each item of a list. -/
theorem adds_foldl {ι : Type} {op : Seeds → ι → Seeds} {P : ι → Nat → TokenId → Prop}
    {E : ι → Nat → Nat → Prop} (items : List ι)
    (h : ∀ a ∈ items, Adds n (fun s => op s a) (P a) (E a)) :
    Adds n (fun s => items.foldl op s) (fun i t => ∃ a ∈ items, P a i t)
      (fun i j => ∃ a ∈ items, E a i j) := by
  induction items with
  | nil => exact adds_nothing.congr (by simp) (by simp)
  | cons a items ih =>
    have := (h a List.mem_cons_self).comp (ih fun b hb => h b (List.mem_cons_of_mem a hb))
    exact this.congr (by simp) (by simp)

/-- An addition for each rule of a list, at its place. -/
theorem adds_rules {op : Nat → Seeds → List Step → Seeds}
    {P : Nat → Rule → Nat → TokenId → Prop} {E : Nat → Rule → Nat → Nat → Prop}
    (rules : List Rule)
    (h : ∀ k r, rules[k]? = some r → Adds n (fun s => op k s r.steps) (P k r) (E k r)) :
    Adds n (fun s => rules.zipIdx.foldl (fun s (r, k) => op k s r.steps) s)
      (fun i t => ∃ k r, rules[k]? = some r ∧ P k r i t)
      (fun i j => ∃ k r, rules[k]? = some r ∧ E k r i j) := by
  have hall : ∀ p ∈ rules.zipIdx, Adds n (fun s => op p.2 s p.1.steps) (P p.2 p.1)
      (E p.2 p.1) := fun p hp => h p.2 p.1 (List.mem_zipIdx_iff_getElem?.mp hp)
  refine (adds_foldl rules.zipIdx hall).congr ?_ ?_
  · intro i t
    simp only [Prod.exists, List.mem_zipIdx_iff_getElem?]
    exact exists_comm
  · intro i j
    simp only [Prod.exists, List.mem_zipIdx_iff_getElem?]
    exact exists_comm

theorem adds_grow {i : Nat} (hi : i < n) (ts : List TokenId) :
    Adds n (fun s => s.grow i ts) (fun j t => j = i ∧ t ∈ ts) (fun _ _ => False) := by
  have hget : ∀ (s : Seeds), Sized n s → ∀ j, (s.grow i ts).sets.getD j [] =
      if j = i then TokenSet.insertAll (s.sets.getD j []) ts else s.sets.getD j [] := by
    intro s hs j
    simp only [grow, Array.getD_eq_getD_getElem?, Array.getElem?_modify]
    by_cases hij : i = j
    · subst hij
      have hlt : i < s.sets.size := by rw [hs.sets]; exact hi
      simp [hlt]
    · simp [hij, Ne.symm hij]
  refine ⟨?_, ?_, fun s _ i j => (or_false _).symm.to_iff⟩
  · intro s hs
    refine ⟨by simpa [grow] using hs.sets, hs.edges, ?_⟩
    intro j
    rw [hget s hs]
    split
    · exact TokenSet.ascending_insertAll (hs.ascending j) ts
    · exact hs.ascending j
  · intro s hs j t
    unfold Holds
    rw [hget s hs]
    split
    · rename_i hji; simp [hji]
    · rename_i hji; simp [hji]

theorem adds_link {a : Nat} (ha : a < n) (b : Nat) :
    Adds n (fun s => s.link a b) (fun _ _ => False) (fun i j => i = a ∧ j = b) := by
  refine ⟨?_, fun s _ i t => (or_false _).symm.to_iff, ?_⟩
  · intro s hs
    exact ⟨hs.sets, by simpa [link] using hs.edges, hs.ascending⟩
  · intro s hs i j
    unfold Links
    simp only [link, Array.getD_eq_getD_getElem?, Array.getElem?_modify]
    by_cases hai : a = i
    · subst hai
      have hlt : a < s.edges.size := by rw [hs.edges]; exact ha
      simp [hlt, or_comm]
    · simp [hai, Ne.symm hai]

end Adds

/-! ## The start and the end of a pass -/

theorem sized_initial (n : Nat) {ts : TokenSet} (h : Ascending ts) : Sized n (initial n ts) := by
  refine ⟨by simp [initial], by simp [initial], ?_⟩
  intro i
  simp only [initial, Array.getD_eq_getD_getElem?, Array.getElem?_replicate]
  split
  · exact h
  · exact TokenSet.ascending_nil

theorem holds_initial {n : Nat} {ts : TokenSet} {i : Nat} {t : TokenId} :
    (initial n ts).Holds i t ↔ i < n ∧ t ∈ ts := by
  unfold Holds
  simp only [initial, Array.getD_eq_getD_getElem?, Array.getElem?_replicate]
  split
  · rename_i hi; simp [hi]
  · rename_i hi; simp [hi]

theorem links_initial {n : Nat} {ts : TokenSet} {i j : Nat} : ¬ (initial n ts).Links i j := by
  unfold Links
  simp only [initial, Array.getD_eq_getD_getElem?, Array.getElem?_replicate]
  split
  · simp
  · simp

theorem edge_reverse_iff {s : Seeds} {i j : Nat} :
    Edge (s.edges.map List.reverse) i j ↔ s.Links i j := by
  unfold Edge Links
  rw [Array.getD_eq_getD_getElem?, Array.getD_eq_getD_getElem?, Array.getElem?_map]
  cases s.edges[i]? with
  | none => simp
  | some targets => simp

section Settle

variable {n : Nat} {op : Seeds → Seeds} {P : Nat → TokenId → Prop} {E : Nat → Nat → Prop}
  (h : Adds n op P E) {ts : TokenSet} (hts : Ascending ts)
include h hts

/-- The edges to flow along are those that were added. -/
theorem Adds.edge_eq : Edge ((op (initial n ts)).edges.map List.reverse) = E := by
  funext i j
  refine propext (edge_reverse_iff.trans ?_)
  rw [h.links _ (sized_initial n hts)]
  exact or_iff_right links_initial

theorem Adds.ascending_settle (hE : ∀ i j, E i j → i < n ∧ j < n) (i : Nat) :
    Ascending ((op (initial n ts)).settle.1.getD i []) := by
  have hs := h.sized _ (sized_initial n hts)
  rw [← hs.sets, ← h.edge_eq hts] at hE
  exact ascending_spread hs.ascending (fun i j hij => (hE i j hij).2)
    (fun i j hij => (hE i j hij).1) i

/-- Once everything has flowed, a place has the seeds of all places that lead to
it. -/
theorem Adds.mem_settle_iff (hE : ∀ i j, E i j → i < n ∧ j < n) {j : Nat} {t : TokenId} :
    t ∈ (op (initial n ts)).settle.1.getD j [] ↔
      ∃ i, ReflTransGen E i j ∧ ((i < n ∧ t ∈ ts) ∨ P i t) := by
  have hinit := sized_initial n hts
  have hs := h.sized _ hinit
  have hholds : ∀ i, t ∈ (op (initial n ts)).sets.getD i [] ↔ (i < n ∧ t ∈ ts) ∨ P i t := by
    intro i
    rw [← holds_initial]
    exact h.holds _ hinit i t
  have hedge := h.edge_eq hts
  unfold settle
  rw [mem_spread_iff hs.ascending, hedge]
  · simp only [hholds]
  · intro i j hij
    rw [hedge] at hij
    rw [hs.sets]
    exact (hE i j hij).2
  · intro i j hij
    rw [hedge] at hij
    rw [hs.sets]
    exact (hE i j hij).1

end Settle

end GrammarKit.Compile.Seeds
