import GrammarKit.Proofs.Text
import GrammarKit.Report.Snippet

/-!
# Snapped ranges

A drawing begins and ends between characters, so `snap` widens a range to them: `Text.floor`
is the last boundary up to an offset, `Text.ceiling` the first one from it on. What comes out
is the smallest range between characters that has the given one in it, as far as that lies on
the text (`Encloses`).

It can be found without knowing the characters, by going back byte by byte from the start
and forward from the end, up to a boundary (`snapBySteps?`). As no character is longer than
four bytes, three steps are enough, and they do not leave the text (`snapBySteps?_eq`).

The result is `snap_smallest`.
-/
namespace GrammarKit

namespace Text

variable {text : Text} {m n : Nat}

/-- A character starts or the text ends at the offset. -/
def IsBoundary (text : Text) (n : Nat) : Prop :=
  ∃ before after, text = before ++ after ∧ n = bytes before

theorem isBoundary_zero (text : Text) : text.IsBoundary 0 := ⟨[], text, rfl, rfl⟩

theorem IsBoundary.le_bytes (h : text.IsBoundary n) : n ≤ bytes text := by
  obtain ⟨before, after, rfl, rfl⟩ := h
  rw [bytes_append]
  exact Nat.le_add_right _ _

theorem isBoundary_nil_iff : IsBoundary [] n ↔ n = 0 :=
  ⟨fun h => Nat.le_zero.mp h.le_bytes, fun h => h ▸ isBoundary_zero []⟩

/-- Boundaries are at the start of a text, or behind the first character. -/
theorem isBoundary_cons_iff {c : Char} :
    IsBoundary (c :: text) n ↔ n = 0 ∨ c.utf8Size ≤ n ∧ text.IsBoundary (n - c.utf8Size) := by
  constructor
  · rintro ⟨before, after, htext, rfl⟩
    cases before with
    | nil => exact .inl rfl
    | cons d before =>
      obtain ⟨rfl, rfl⟩ := List.cons.inj htext
      rw [bytes_cons, Nat.add_sub_cancel_left]
      exact .inr ⟨Nat.le_add_right _ _, before, after, rfl, rfl⟩
  · rintro (rfl | ⟨hle, before, after, rfl, hn⟩)
    · exact isBoundary_zero _
    · refine ⟨c :: before, after, rfl, ?_⟩
      rw [bytes_cons]
      omega

/-- Texts can be cut at boundaries. -/
theorem isSome_dropBytes?_iff : (text.dropBytes? n).isSome = true ↔ text.IsBoundary n := by
  fun_induction dropBytes? text n with
  | case1 text => simp [isBoundary_zero]
  | case2 n => simp [isBoundary_nil_iff]
  | case3 c text n hle ih => simp [ih, isBoundary_cons_iff, hle]
  | case4 c text n hlt => simp [isBoundary_cons_iff, hlt]

instance (text : Text) (n : Nat) : Decidable (text.IsBoundary n) :=
  decidable_of_iff _ isSome_dropBytes?_iff

/-! ## The boundary before an offset -/

theorem floor_le (text : Text) (n : Nat) : text.floor n ≤ n := by
  fun_induction floor text n <;> omega

theorem isBoundary_floor (text : Text) (n : Nat) : text.IsBoundary (text.floor n) := by
  fun_induction floor text n with
  | case1 n => exact isBoundary_zero []
  | case2 c text n hle ih =>
    rw [isBoundary_cons_iff, Nat.add_sub_cancel_left]
    exact .inr ⟨Nat.le_add_right _ _, ih⟩
  | case3 c text n hlt => exact isBoundary_zero _

theorem IsBoundary.le_floor (h : text.IsBoundary m) (hle : m ≤ n) : m ≤ text.floor n := by
  fun_induction floor text n generalizing m with
  | case1 n => exact Nat.le_of_eq (isBoundary_nil_iff.mp h)
  | case2 c text n hsize ih =>
    rcases isBoundary_cons_iff.mp h with rfl | ⟨hm, h⟩
    · exact Nat.zero_le _
    · have := ih h (Nat.sub_le_sub_right hle _)
      omega
  | case3 c text n hlt =>
    rcases isBoundary_cons_iff.mp h with rfl | ⟨hm, -⟩ <;> omega

/-- An offset on the text is at most three bytes behind a boundary. -/
theorem le_floor_add_three (text : Text) (h : n ≤ bytes text) : n ≤ text.floor n + 3 := by
  fun_induction floor text n with
  | case1 n =>
    rw [bytes_nil] at h
    omega
  | case2 c text n hle ih =>
    rw [bytes_cons] at h
    have := ih (by omega)
    omega
  | case3 c text n hlt =>
    have := c.utf8Size_le_four
    omega

/-! ## The boundary behind an offset -/

theorem isBoundary_ceiling (text : Text) (n : Nat) : text.IsBoundary (text.ceiling n) := by
  fun_induction ceiling text n with
  | case1 n => exact isBoundary_zero []
  | case2 text => exact isBoundary_zero text
  | case3 c text n ih =>
    rw [isBoundary_cons_iff, Nat.add_sub_cancel_left]
    exact .inr ⟨Nat.le_add_right _ _, ih⟩

theorem min_le_ceiling (text : Text) (n : Nat) : min n (bytes text) ≤ text.ceiling n := by
  fun_induction ceiling text n with
  | case1 n => exact Nat.min_le_right _ _
  | case2 text => exact Nat.min_le_left _ _
  | case3 c text n ih =>
    rw [bytes_cons]
    omega

theorem IsBoundary.ceiling_le (h : text.IsBoundary m) (hle : n ≤ m) : text.ceiling n ≤ m := by
  fun_induction ceiling text n generalizing m with
  | case1 n => exact Nat.zero_le _
  | case2 text => exact Nat.zero_le _
  | case3 c text n ih =>
    rcases isBoundary_cons_iff.mp h with rfl | ⟨hm, h⟩
    · cases hle
    · have := ih h (Nat.sub_le_sub_right hle _)
      omega

/-- Behind the text, its end counts. -/
theorem IsBoundary.ceiling_le_of_min_le (h : text.IsBoundary m) (hle : min n (bytes text) ≤ m) :
    text.ceiling n ≤ m := by
  by_cases hn : n ≤ bytes text
  · exact h.ceiling_le (by omega)
  · have := (isBoundary_ceiling text n).le_bytes
    omega

/-- An offset is at most three bytes in front of a boundary. -/
theorem ceiling_le_add_three (text : Text) (n : Nat) : text.ceiling n ≤ n + 3 := by
  fun_induction ceiling text n with
  | case1 n => exact Nat.zero_le _
  | case2 text => exact Nat.zero_le _
  | case3 c text n ih =>
    have := c.utf8Size_le_four
    by_cases hle : c.utf8Size ≤ n + 1
    · omega
    · have hzero := (isBoundary_zero text).ceiling_le (Nat.zero_le 0)
      rw [Nat.sub_eq_zero_of_le (by omega)]
      omega

/-! ## Byte by byte -/

/-- Goes back to a boundary. There is no result if there is none within these steps, or no
byte to go back. -/
def stepBack? (text : Text) : (steps n : Nat) → Option Nat
  | 0, n => if text.IsBoundary n then some n else none
  | steps + 1, n =>
    if text.IsBoundary n then some n
    else if n = 0 then none
    else stepBack? text steps (n - 1)

/-- Goes forward to a boundary, if there is one within these steps. -/
def stepForward? (text : Text) : (steps n : Nat) → Option Nat
  | 0, n => if text.IsBoundary n then some n else none
  | steps + 1, n =>
    if text.IsBoundary n then some n else stepForward? text steps (n + 1)

theorem stepBack?_eq {steps last : Nat} (h : text.IsBoundary last) (hle : last ≤ n)
    (hlast : ∀ m, text.IsBoundary m → m ≤ n → m ≤ last) (hsteps : n ≤ last + steps) :
    text.stepBack? steps n = some last := by
  have hhere : text.IsBoundary n → n = last := fun hn =>
    Nat.le_antisymm (hlast n hn (Nat.le_refl n)) hle
  induction steps generalizing n with
  | zero =>
    have heq : n = last := by omega
    rw [stepBack?, heq, if_pos h]
  | succ steps ih =>
    rw [stepBack?]
    by_cases hn : text.IsBoundary n
    · rw [if_pos hn, hhere hn]
    · have hne : n ≠ last := fun heq => hn (heq ▸ h)
      rw [if_neg hn, if_neg (by omega)]
      have hback : ∀ m, text.IsBoundary m → m ≤ n - 1 → m ≤ last := fun m hm hmn =>
        hlast m hm (by omega)
      exact ih (by omega) hback (by omega) fun hn' =>
        Nat.le_antisymm (hback _ hn' (Nat.le_refl _)) (by omega)

theorem stepForward?_eq {steps first : Nat} (h : text.IsBoundary first) (hle : n ≤ first)
    (hfirst : ∀ m, text.IsBoundary m → n ≤ m → first ≤ m) (hsteps : first ≤ n + steps) :
    text.stepForward? steps n = some first := by
  induction steps generalizing n with
  | zero =>
    have heq : n = first := by omega
    rw [stepForward?, heq, if_pos h]
  | succ steps ih =>
    rw [stepForward?]
    by_cases hn : text.IsBoundary n
    · rw [if_pos hn, Nat.le_antisymm hle (hfirst n hn (Nat.le_refl n))]
    · have hne : n ≠ first := fun heq => hn (heq ▸ h)
      rw [if_neg hn]
      exact ih (by omega) (fun m hm hnm => hfirst m hm (by omega)) (by omega)

/-- Three steps back suffice on the text. -/
theorem stepBack?_min (text : Text) (n : Nat) :
    text.stepBack? 3 (min n (bytes text)) = some (text.floor n) := by
  have hfloor := isBoundary_floor text n
  refine stepBack?_eq hfloor (Nat.le_min.mpr ⟨floor_le text n, hfloor.le_bytes⟩)
    (fun m hm hle => hm.le_floor (by omega)) ?_
  have hnear := le_floor_add_three text (Nat.min_le_right n (bytes text))
  have hsame := (isBoundary_floor text (min n (bytes text))).le_floor
    (Nat.le_trans (floor_le text _) (Nat.min_le_left n _))
  omega

/-- And so do three steps forward. -/
theorem stepForward?_min (text : Text) (n : Nat) :
    text.stepForward? 3 (min n (bytes text)) = some (text.ceiling n) := by
  refine stepForward?_eq (isBoundary_ceiling text n) (min_le_ceiling text n)
    (fun m hm hle => hm.ceiling_le_of_min_le hle) ?_
  have hnear := ceiling_le_add_three text (min n (bytes text))
  have hcut := min_le_ceiling text (min n (bytes text))
  rw [Nat.min_assoc, Nat.min_self] at hcut
  have hsame := (isBoundary_ceiling text (min n (bytes text))).ceiling_le_of_min_le hcut
  omega

end Text

namespace Report

open Text

variable {text : Text} {range : Nat × Nat}

/-- Snaps a range byte by byte. There is no result if there are not enough steps, or if the
start that the end may not be before lies past the text. -/
def snapBySteps? (text : Text) (steps : Nat) (range : Nat × Nat) : Option (Nat × Nat) := do
  let start ← text.stepBack? steps (min range.1 (bytes text))
  if bytes text < start then none
  else
    let stop ← text.stepForward? steps (min (max range.2 start) (bytes text))
    some (start, stop)

theorem snapBySteps?_eq (text : Text) (range : Nat × Nat) :
    snapBySteps? text 3 range = some (snap text range) := by
  have hstart := (isBoundary_floor text range.1).le_bytes
  rw [snapBySteps?, stepBack?_min, Option.bind_eq_bind, Option.bind_some,
    if_neg (Nat.not_lt.mpr hstart), stepForward?_min, Option.bind_some, Nat.max_comm]
  rfl

/-- The smallest range between characters that holds a range, as far as that is on the text. -/
structure Encloses (text : Text) (range outer : Nat × Nat) : Prop where
  le : outer.1 ≤ outer.2
  stop_le : outer.2 ≤ bytes text
  start : text.IsBoundary outer.1
  stop : text.IsBoundary outer.2
  before : outer.1 ≤ min range.1 (bytes text)
  behind : min range.2 (bytes text) ≤ outer.2
  smallest : ∀ other : Nat × Nat, text.IsBoundary other.1 → text.IsBoundary other.2 →
    other.1 ≤ min range.1 (bytes text) → min range.2 (bytes text) ≤ other.2 →
    other.1 ≤ outer.1 ∧ outer.2 ≤ other.2

/-- The start that was moved is not behind the end. -/
theorem snap_eq (h : range.1 ≤ range.2) :
    snap text range = (text.floor range.1, text.ceiling range.2) := by
  have hmax : (text.floor range.1).max range.2 = range.2 :=
    Nat.max_eq_right (Nat.le_trans (floor_le text range.1) h)
  rw [snap, hmax]

/-- No boundary lies between a range and its snapped ends. -/
theorem encloses_snap (text : Text) (h : range.1 ≤ range.2) :
    Encloses text range (snap text range) := by
  rw [snap_eq h]
  have hfloor := isBoundary_floor text range.1
  have hceiling := isBoundary_ceiling text range.2
  have hbefore : text.floor range.1 ≤ min range.1 (bytes text) :=
    Nat.le_min.mpr ⟨floor_le text range.1, hfloor.le_bytes⟩
  have hbehind := min_le_ceiling text range.2
  refine ⟨?_, hceiling.le_bytes, hfloor, hceiling, hbefore, hbehind, ?_⟩
  · dsimp only
    omega
  · intro other hstart hstop hle hge
    exact ⟨hstart.le_floor (by omega), hstop.ceiling_le_of_min_le hge⟩

/-- Ranges between characters stay as they are. -/
theorem snap_eq_self (h : range.1 ≤ range.2) (hstart : text.IsBoundary range.1)
    (hstop : text.IsBoundary range.2) : snap text range = range := by
  rw [snap_eq h]
  refine Prod.ext (Nat.le_antisymm (floor_le text _) (hstart.le_floor (Nat.le_refl _))) ?_
  have hge := min_le_ceiling text range.2
  have hle := hstop.ceiling_le (Nat.le_refl _)
  have := hstop.le_bytes
  dsimp only
  omega

/-- **Snapping.** A range is snapped within three steps on either side, and nothing goes wrong
there. What comes out is the smallest range between characters that holds it. Ranges between
characters are kept, so that snapping twice is snapping once. -/
theorem snap_smallest (text : Text) (range : Nat × Nat) (h : range.1 ≤ range.2) :
    snapBySteps? text 3 range = some (snap text range) ∧
      Encloses text range (snap text range) ∧
      (text.IsBoundary range.1 → text.IsBoundary range.2 → snap text range = range) ∧
      snap text (snap text range) = snap text range := by
  have hsnap := encloses_snap text h
  exact ⟨snapBySteps?_eq text range, hsnap, snap_eq_self h,
    snap_eq_self hsnap.le hsnap.start hsnap.stop⟩

/-- An empty range inside a character is the character, and one past the text is its end. -/
theorem snap_accents :
    snapBySteps? "é!".toList 3 (1, 1) = some (0, 2) ∧ snap "é!".toList (1, 1) = (0, 2) ∧
      snap "é!".toList (1, 9) = (0, 3) ∧ snap "é!".toList (7, 9) = (3, 3) ∧
      snap "é!".toList (2, 3) = (2, 3) := by
  have hsnap : snap "é!".toList (1, 1) = (0, 2) := by decide
  obtain ⟨hsteps, -, -, -⟩ := snap_smallest "é!".toList (1, 1) (Nat.le_refl 1)
  obtain ⟨-, -, hkeep, -⟩ := snap_smallest "é!".toList (2, 3) (Nat.le_succ 2)
  rw [hsnap] at hsteps
  refine ⟨hsteps, hsnap, by decide, by decide, hkeep ?_ ?_⟩
  · exact ⟨['é'], ['!'], rfl, rfl⟩
  · exact ⟨['é', '!'], [], rfl, rfl⟩

end Report
end GrammarKit
