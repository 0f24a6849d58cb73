import GrammarKit.Lexing.Indentation
import Mathlib.Data.List.Infix

/-!
# Open blocks and the lines so far

Which blocks are open depends on all lines so far: a line between two levels closes some
blocks and opens another one. Still there is a closed form. The levels, from the zero below
all blocks up, are what `levels_line` makes of them: a line keeps those up to its own width,
and adds its width if it is new. So the open widths are the lowest widths of the last lines,
counted from any of the lines on (`mem_levels_after_iff`).

The zero is kept apart from the open blocks. `Stack.line` has it at the bottom of the stack
instead, and takes levels off the top one by one, whatever is below. This comes to the same,
as the zero is never wider than a line (`Stack.line_levels`).

The result is `levels_after`.
-/
namespace GrammarKit

/-- Of a descending list, the numbers up to a bound come last. -/
theorem dropWhile_lt_eq_filter {ns : List Nat} (h : ns.Pairwise (· > ·)) (bound : Nat) :
    ns.dropWhile (bound < ·) = ns.filter (· ≤ bound) := by
  induction h with
  | nil => rfl
  | @cons n ns hlt _ ih =>
    by_cases hn : bound < n
    · rw [List.dropWhile_cons_of_pos (by simpa using hn),
        List.filter_cons_of_neg (by simpa using hn), ih]
    · rw [List.dropWhile_cons_of_neg (by simpa using hn)]
      refine (List.filter_eq_self.mpr fun m hm => decide_eq_true ?_).symm
      rcases List.mem_cons.mp hm with rfl | hm
      · omega
      · have := hlt m hm
        omega

namespace Indentation

variable {s : Indentation} {width : Nat}

/-- A line closes some of the open blocks and opens at most one. -/
theorem depth_line (b : Indentation) (width : Nat) :
    ∃ kept, b.depth = (b.line width).1.dedents + kept ∧
      (b.line width).2.depth = kept + if (b.line width).1.indent then 1 else 0 := by
  have hle : (b.within width).depth ≤ b.depth := (List.dropWhile_suffix _).length_le
  refine ⟨(b.within width).depth, ?_⟩
  unfold line
  dsimp only
  split
  · refine ⟨?_, rfl⟩
    show b.depth = b.depth - (b.within width).depth + _
    omega
  · refine ⟨?_, rfl⟩
    show b.depth = b.depth - (b.within width).depth + _
    omega

/-- All levels, outermost first: the zero, and the widths of the open blocks. -/
def levels (s : Indentation) : List Nat := 0 :: s.widths.reverse

/-- Each block is wider than the one around it, and all are wider than zero. -/
def Nested (s : Indentation) : Prop := s.levels.Pairwise (· < ·)

theorem nested_start : start.Nested := List.pairwise_singleton _ 0

theorem Nested.pos (h : s.Nested) : ∀ w ∈ s.widths, 0 < w := fun w hw =>
  (List.pairwise_cons.mp h).1 w (List.mem_reverse.mpr hw)

theorem Nested.descending (h : s.Nested) : s.widths.Pairwise (· > ·) :=
  List.pairwise_reverse.mp (List.pairwise_cons.mp h).2

theorem Nested.widths_within (h : s.Nested) (width : Nat) :
    (s.within width).widths = s.widths.filter (· ≤ width) :=
  dropWhile_lt_eq_filter h.descending width

/-- The blocks within a line end at its width if it is a level. -/
theorem Nested.current_within_iff (h : s.Nested) :
    (s.within width).current = width ↔ width ∈ s.levels := by
  rw [levels, List.mem_cons, List.mem_reverse, current, h.widths_within]
  have hmem : ∀ w, w ∈ s.widths.filter (· ≤ width) ↔ w ∈ s.widths ∧ w ≤ width := by simp
  have hdesc := h.descending.filter (· ≤ width)
  generalize s.widths.filter (· ≤ width) = inner at hmem hdesc
  cases inner with
  | nil =>
    rw [List.headD_nil, eq_comm]
    refine (or_iff_left fun hw => ?_).symm
    exact List.not_mem_nil ((hmem width).mpr ⟨hw, Nat.le_refl width⟩)
  | cons w inner =>
    obtain ⟨hw, hle⟩ := (hmem w).mp List.mem_cons_self
    have hpos := h.pos w hw
    rw [List.headD_cons]
    constructor
    · rintro rfl
      exact .inr hw
    · rintro (rfl | hwidth)
      · omega
      · rcases List.mem_cons.mp ((hmem width).mpr ⟨hwidth, Nat.le_refl width⟩) with rfl | hinner
        · rfl
        · have := (List.pairwise_cons.mp hdesc).1 width hinner
          omega

/-! ## A line -/

theorem Nested.indent_line_iff (h : s.Nested) :
    (s.line width).1.indent = true ↔ width ∉ s.levels := by
  rw [← h.current_within_iff]
  unfold line
  dsimp only
  split
  · next heq => simp [heq]
  · next hne => simp [hne]

theorem dedents_line (s : Indentation) (width : Nat) :
    (s.line width).1.dedents = s.depth - (s.within width).depth := by
  unfold line
  dsimp only
  split <;> rfl

/-- A line closes the blocks that are wider. -/
theorem Nested.dedents_line (h : s.Nested) :
    (s.line width).1.dedents = s.levels.countP (width < ·) := by
  have hlength := List.length_eq_countP_add_countP (width < ·) (l := s.widths)
  have hinner : (s.within width).depth = s.widths.countP fun w => ¬ width < w := by
    rw [depth, h.widths_within, List.countP_eq_length_filter]
    simp only [Nat.not_lt]
  rw [Indentation.dedents_line, hinner, levels, List.countP_cons_of_neg (by simp),
    List.countP_reverse, depth]
  simp only [decide_eq_true_eq] at hlength
  omega

theorem current_line (s : Indentation) (width : Nat) : (s.line width).2.current = width := by
  unfold line
  dsimp only
  split
  · assumption
  · rfl

/-- A line keeps the levels up to its width, and adds its width if it is new. -/
theorem Nested.levels_line (h : s.Nested) :
    (s.line width).2.levels =
      s.levels.filter (· ≤ width) ++ if width ∈ s.levels then [] else [width] := by
  have hfilter : s.levels.filter (· ≤ width) = (s.within width).levels := by
    rw [levels, levels, h.widths_within, List.filter_cons_of_pos (by simp), List.filter_reverse]
  rw [hfilter]
  unfold line
  dsimp only
  split
  · next heq => rw [if_pos (h.current_within_iff.mp heq), List.append_nil]
  · next hne =>
    rw [if_neg fun hmem => hne (h.current_within_iff.mpr hmem)]
    simp [levels]

theorem Nested.mem_levels_line_iff (h : s.Nested) {m : Nat} :
    m ∈ (s.line width).2.levels ↔ m = width ∨ m ≤ width ∧ m ∈ s.levels := by
  rw [h.levels_line]
  by_cases hwidth : width ∈ s.levels
  · grind
  · grind

/-- Blocks stay nested. -/
theorem Nested.line (h : s.Nested) (width : Nat) : (s.line width).2.Nested := by
  unfold Nested
  rw [h.levels_line]
  refine List.pairwise_append.mpr ⟨h.filter _, ?_, ?_⟩
  · split
    · exact .nil
    · exact List.pairwise_singleton _ width
  · intro m hm n hn
    obtain ⟨hm, hle⟩ := List.mem_filter.mp hm
    split at hn
    · cases hn
    · next hnew =>
      rw [List.mem_singleton.mp hn]
      exact Nat.lt_of_le_of_ne (of_decide_eq_true hle) fun heq => hnew (heq ▸ hm)

/-! ## All lines so far -/

/-- The indentation after lines of these widths. -/
def after (ws : List Nat) : Indentation := ws.foldl (fun s w => (s.line w).2) start

theorem after_concat (ws : List Nat) (w : Nat) : after (ws ++ [w]) = ((after ws).line w).2 :=
  List.foldl_concat _ _ _ _

theorem nested_after (ws : List Nat) : (after ws).Nested := by
  induction ws using List.reverseRecOn with
  | nil => exact nested_start
  | append_singleton ws w ih =>
    rw [after_concat]
    exact ih.line w

/-- The width is the lowest one from some line to the last. -/
def LowestFrom (ws : List Nat) (m : Nat) : Prop := ∃ i, (ws.drop i).min? = some m

theorem not_lowestFrom_nil (m : Nat) : ¬ LowestFrom [] m := by
  rintro ⟨i, hi⟩
  rw [List.drop_nil] at hi
  cases hi

/-- The last line is lowest from itself on. From another line on, a width stays lowest if the
last line is not below it. -/
theorem lowestFrom_concat_iff {ws : List Nat} {w m : Nat} :
    LowestFrom (ws ++ [w]) m ↔ m = w ∨ m ≤ w ∧ LowestFrom ws m := by
  constructor
  · rintro ⟨i, hi⟩
    obtain ⟨hmem, hle⟩ := List.min?_eq_some_iff.mp hi
    rw [List.drop_append] at hmem hle
    by_cases hlen : i ≤ ws.length
    · rw [Nat.sub_eq_zero_of_le hlen, List.drop_zero] at hmem hle
      rcases List.mem_append.mp hmem with hmem | hmem
      · refine .inr ⟨hle w (by simp), i, List.min?_eq_some_iff.mpr ⟨hmem, fun b hb => ?_⟩⟩
        exact hle b (List.mem_append_left _ hb)
      · exact .inl (List.mem_singleton.mp hmem)
    · have hnone : ws.drop i ++ [w].drop (i - ws.length) = [] := by
        rw [List.drop_eq_nil_of_le (by omega), List.drop_eq_nil_of_le (by simp; omega)]
        rfl
      rw [hnone] at hmem
      exact absurd hmem List.not_mem_nil
  · rintro (rfl | ⟨hle, i, hi⟩)
    · exact ⟨ws.length, by rw [List.drop_left]; rfl⟩
    · obtain ⟨hmem, hlowest⟩ := List.min?_eq_some_iff.mp hi
      have hlen : i ≤ ws.length := by
        by_contra hlt
        rw [List.drop_eq_nil_of_le (by omega)] at hmem
        exact List.not_mem_nil hmem
      refine ⟨i, List.min?_eq_some_iff.mpr ?_⟩
      rw [List.drop_append_of_le_length hlen]
      refine ⟨List.mem_append_left _ hmem, fun b hb => ?_⟩
      rcases List.mem_append.mp hb with hb | hb
      · exact hlowest b hb
      · rw [List.mem_singleton.mp hb]
        exact hle

/-- **Levels.** Above zero, the levels are the widths that are lowest from some line on. -/
theorem mem_levels_after_iff (ws : List Nat) (m : Nat) :
    m ∈ (after ws).levels ↔ m = 0 ∨ LowestFrom ws m := by
  induction ws using List.reverseRecOn with
  | nil => simp [not_lowestFrom_nil, after, start, levels]
  | append_singleton ws w ih =>
    rw [after_concat, (nested_after ws).mem_levels_line_iff, ih, lowestFrom_concat_iff]
    by_cases hm : m = 0
    · simp [hm]
    · simp [hm]

/-! ## A stack with the zero -/

namespace Stack

/-- Takes levels off the top as long as they are wider, and counts them. -/
def popWider (width : Nat) : List Nat → Nat × List Nat
  | [] => (0, [])
  | top :: stack =>
    if width < top then
      let (pops, rest) := popWider width stack
      (pops + 1, rest)
    else (0, top :: stack)

/-- Takes in the width of a line, on a stack of all levels with the innermost on top. -/
def line (stack : List Nat) (width : Nat) : Shift × List Nat :=
  if stack.headD 0 < width then (⟨0, true⟩, width :: stack)
  else
    let (dedents, rest) := popWider width stack
    if rest.headD 0 = width then (⟨dedents, false⟩, rest) else (⟨dedents, true⟩, width :: rest)

theorem popWider_eq (width : Nat) (stack : List Nat) :
    popWider width stack =
      (stack.length - (stack.dropWhile (width < ·)).length, stack.dropWhile (width < ·)) := by
  induction stack with
  | nil => rfl
  | cons top stack ih =>
    rw [popWider]
    by_cases htop : width < top
    · have hle := (List.dropWhile_suffix (width < ·) (l := stack)).length_le
      rw [if_pos htop, ih, List.dropWhile_cons_of_pos (by simpa using htop), List.length_cons]
      exact Prod.ext (by dsimp only; omega) rfl
    · rw [if_neg htop, List.dropWhile_cons_of_neg (by simpa using htop), Nat.sub_self]

/-- The zero stays at the bottom. -/
theorem popWider_levels (s : Indentation) (width : Nat) :
    popWider width s.levels.reverse =
      (s.depth - (s.within width).depth, (s.within width).levels.reverse) := by
  have hdrop : s.levels.reverse.dropWhile (width < ·) = (s.within width).levels.reverse := by
    rw [levels, levels, List.reverse_cons, List.reverse_reverse, List.reverse_cons,
      List.reverse_reverse, List.dropWhile_append]
    cases hinner : s.widths.dropWhile (width < ·) with
    | nil => simp [within, hinner]
    | cons w inner => simp [within, hinner]
  rw [popWider_eq, hdrop]
  simp [levels, depth]

theorem headD_levels (s : Indentation) : s.levels.reverse.headD 0 = s.current := by
  obtain ⟨widths⟩ := s
  cases widths <;> simp [levels, current]

/-- A line that is wider than all is within all blocks. -/
theorem within_eq_self (h : s.current < width) : s.within width = s := by
  obtain ⟨widths⟩ := s
  cases widths with
  | nil => rfl
  | cons w widths =>
    have hw : ¬ width < w := Nat.not_lt.mpr (Nat.le_of_lt h)
    rw [within, List.dropWhile_cons_of_neg (by simpa using hw)]

/-- It makes no difference whether the zero is on the stack. -/
theorem line_levels (s : Indentation) (width : Nat) :
    line s.levels.reverse width = ((s.line width).1, (s.line width).2.levels.reverse) := by
  unfold line Indentation.line
  rw [headD_levels, popWider_levels]
  dsimp only
  rw [headD_levels]
  by_cases hwider : s.current < width
  · rw [if_pos hwider, within_eq_self hwider, if_neg (Nat.ne_of_lt hwider), Nat.sub_self]
    simp [levels]
  · rw [if_neg hwider]
    split
    · rfl
    · simp [levels]

end Stack

/-- What a line does, told by the levels before it. -/
structure LineTaken (s : Indentation) (width : Nat) : Prop where
  current_eq : (s.line width).2.current = width
  dedents_eq : (s.line width).1.dedents = s.levels.countP (width < ·)
  indent_iff : (s.line width).1.indent = true ↔ width ∉ s.levels
  depth_eq : (s.line width).2.depth + (s.line width).1.dedents =
    s.depth + if (s.line width).1.indent then 1 else 0
  /-- A stack that has the zero at the bottom makes the same of the line. -/
  stack_eq : Stack.line s.levels.reverse width =
    ((s.line width).1, (s.line width).2.levels.reverse)
  /-- And the zero is not taken off. -/
  bottom_eq : (Stack.popWider width s.levels.reverse).2.getLast? = some 0

theorem Nested.lineTaken (h : s.Nested) (width : Nat) : LineTaken s width where
  current_eq := current_line s width
  dedents_eq := h.dedents_line
  indent_iff := h.indent_line_iff
  depth_eq := by
    obtain ⟨kept, hbefore, hafter⟩ := depth_line s width
    omega
  stack_eq := Stack.line_levels s width
  bottom_eq := by
    rw [Stack.popWider_levels, List.getLast?_reverse]
    rfl

/-- **Indentation.** After any lines, the levels are the zero and, in ascending order, the
positive widths that are lowest from some line on. The next line closes the blocks that are
wider, opens one if its width is no level, and becomes the innermost level. At the end all
blocks are closed, and only the zero is left. -/
theorem levels_after (ws : List Nat) :
    (∃ lows, (after ws).levels = 0 :: lows ∧ lows.Pairwise (· < ·) ∧
        ∀ m, m ∈ lows ↔ 0 < m ∧ LowestFrom ws m) ∧
      (∀ w, LineTaken (after ws) w ∧ after (ws ++ [w]) = ((after ws).line w).2) ∧
      (after ws).levels.length = (after ws).depth + 1 ∧
      (after ws).finish = ((after ws).depth, after []) ∧ (after []).levels = [0] := by
  have hnested := nested_after ws
  refine ⟨⟨(after ws).widths.reverse, rfl, (List.pairwise_cons.mp hnested).2, fun m => ?_⟩,
    fun w => ⟨hnested.lineTaken w, after_concat ws w⟩, by simp [levels, depth], rfl, rfl⟩
  have hmem := mem_levels_after_iff ws m
  rw [levels, List.mem_cons] at hmem
  constructor
  · intro hm
    have hpos := hnested.pos m (List.mem_reverse.mp hm)
    exact ⟨hpos, (hmem.mp (.inr hm)).resolve_left (Nat.ne_of_gt hpos)⟩
  · rintro ⟨hpos, hlow⟩
    exact (hmem.mpr (.inr hlow)).resolve_left (Nat.ne_of_gt hpos)

/-- A line of width one between the levels zero and two. -/
example : (after [0, 2, 4, 2, 5, 0, 2, 1]).levels = [0, 1] ∧
    ((after [0, 2, 4, 2, 5, 0, 2]).line 1).1 = ⟨1, true⟩ := by decide

end Indentation
end GrammarKit
