import GrammarKit.Proofs.Lexing.Newlines
import GrammarKit.Proofs.Text

/-!
# Lines and columns by the text

An index that lists all newlines of a text tells the line of a place by the newlines in
front of it, and the column by what stands between the last of them and the place
(`Lexed.lineOf_of_complete`). So line and column do not depend on what follows, nor on
how long the earlier lines are.
-/
namespace GrammarKit

namespace Text

/-- What stands behind the last newline, or the whole text if there is none. -/
def lastLine (text : Text) : Text := (text.reverse.takeWhile (· ≠ '\n')).reverse

theorem lastLine_of_notMem {text : Text} (h : '\n' ∉ text) : text.lastLine = text := by
  have hall : ∀ c ∈ text.reverse, decide (c ≠ '\n') = true := by
    intro c hc
    exact decide_eq_true fun heq => h (heq ▸ List.mem_reverse.mp hc)
  rw [lastLine, List.takeWhile_eq_self_iff.mpr hall, List.reverse_reverse]

theorem lastLine_append {line : Text} (h : '\n' ∉ line) (before : Text) :
    (before ++ '\n' :: line).lastLine = line := by
  have hall : ∀ c ∈ line.reverse, decide (c ≠ '\n') = true := by
    intro c hc
    exact decide_eq_true fun heq => h (heq ▸ List.mem_reverse.mp hc)
  rw [lastLine, List.reverse_append, List.reverse_cons, List.append_assoc,
    List.takeWhile_append_of_pos hall, List.singleton_append, List.takeWhile_cons_of_neg (by simp),
    List.append_nil, List.reverse_reverse]

/-- A text is one line, or its last line stands behind a newline. -/
theorem line_cases (text : Text) :
    '\n' ∉ text ∨ ∃ before line, text = before ++ '\n' :: line ∧ '\n' ∉ line := by
  by_cases h : '\n' ∈ text
  · obtain ⟨line, before, htext, hline⟩ :=
      List.eq_append_cons_of_mem (List.mem_reverse.mpr h)
    refine .inr ⟨before.reverse, line.reverse, ?_, by simpa using hline⟩
    rw [← List.reverse_reverse text, htext]
    simp
  · exact .inl h

theorem length_newlinesFrom (offset : Nat) (text : Text) :
    (newlinesFrom offset text).length = text.count '\n' := by
  induction text generalizing offset with
  | nil => rfl
  | cons c cs ih =>
    rw [newlinesFrom, List.length_append, ih, List.count_cons]
    by_cases hc : c = '\n'
    · simp [hc, Nat.add_comm]
    · simp [hc]

/-- The newline in front of the last line is the last one. -/
theorem newlines_append {line : Text} (h : '\n' ∉ line) (before : Text) :
    newlines (before ++ '\n' :: line) = newlines before ++ [bytes before] := by
  rw [newlines, newlinesFrom_append, newlinesFrom, if_pos rfl, newlinesFrom_eq_nil_iff.mpr h,
    Nat.zero_add]
  rfl

/-- The newlines in front of a place are those of the text in front of it. -/
theorem takeWhile_newlines (before rest : Text) :
    (newlines (before ++ rest)).takeWhile (· < bytes before) = newlines before := by
  have hbefore : ∀ n ∈ newlinesFrom 0 before, decide (n < bytes before) = true := by
    intro n hn
    obtain ⟨b, line, rfl, rfl⟩ := mem_newlinesFrom_iff.mp hn
    have := bytes_pos (List.cons_ne_nil '\n' line)
    rw [bytes_append]
    exact decide_eq_true (by omega)
  have hrest : ∀ n ∈ newlinesFrom (bytes before) rest, bytes before ≤ n := by
    intro n hn
    obtain ⟨b, after, -, rfl⟩ := mem_newlinesFrom_iff.mp hn
    exact Nat.le_add_right _ _
  rw [newlines, newlinesFrom_append, Nat.zero_add, List.takeWhile_append_of_pos hbefore]
  cases hnext : newlinesFrom (bytes before) rest with
  | nil => exact List.append_nil _
  | cons n ns =>
    rw [hnext] at hrest
    have hn := hrest n List.mem_cons_self
    rw [List.takeWhile_cons_of_neg (by simpa using hn), List.append_nil]
    rfl

end Text

namespace Lexed

theorem lineOf_of_takeWhile {l : Lexed} {offset last : Nat} {earlier : List Nat}
    (h : l.newlines.takeWhile (· < offset) = earlier ++ [last]) :
    l.lineOf offset = (earlier.length + 2, offset - last) := by
  unfold lineOf
  rw [h]
  cases earlier with
  | nil => rfl
  | cons n earlier => simp [List.getLast?_cons]

/-- The line counts the newlines in front, and the column begins behind the last one. -/
theorem lineOf_of_complete {l : Lexed} {before rest : Text}
    (h : l.newlines = Text.newlines (before ++ rest)) :
    l.lineOf (Text.bytes before) =
      (1 + before.count '\n', 1 + Text.bytes before.lastLine) := by
  have htake : l.newlines.takeWhile (· < Text.bytes before) = Text.newlines before := by
    rw [h, Text.takeWhile_newlines]
  rcases before.line_cases with hnone | ⟨earlier, line, rfl, hline⟩
  · rw [Text.newlines, Text.newlinesFrom_eq_nil_iff.mpr hnone] at htake
    rw [Text.lastLine_of_notMem hnone, List.count_eq_zero_of_not_mem hnone, lineOf, htake]
    exact Prod.ext rfl (Nat.add_comm _ _)
  · have hcount : (Text.newlines earlier).length = earlier.count '\n' :=
      Text.length_newlinesFrom 0 earlier
    have hnone : line.count '\n' = 0 := List.count_eq_zero_of_not_mem hline
    rw [Text.newlines_append hline] at htake
    rw [lineOf_of_takeWhile htake, hcount, Text.lastLine_append hline, List.count_append,
      List.count_cons_self, hnone, Text.bytes_append, Text.bytes_cons]
    have hwidth : '\n'.utf8Size = 1 := rfl
    exact Prod.ext (by omega) (by omega)

end Lexed
end GrammarKit
