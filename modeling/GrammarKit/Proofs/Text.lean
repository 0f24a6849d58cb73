import GrammarKit.Text.Basic

/-!
# Cutting texts at byte offsets

The offset after some characters of a text is the sum of their widths. It is a
boundary: a text can be cut there, and what is before and behind the cut are the
characters before and behind it.
-/
namespace GrammarKit.Text

@[simp] theorem dropBytes?_zero (text : Text) : text.dropBytes? 0 = some text := by
  cases text <;> rfl

@[simp] theorem takeBytes?_zero (text : Text) : text.takeBytes? 0 = some [] := by
  cases text <;> rfl

@[simp] theorem charBefore?_zero (text : Text) : text.charBefore? 0 = none := by
  cases text <;> rfl

/-- A first character is some bytes, and the others are what is left of them. -/
theorem exists_bytes_cons (c : Char) (text : Text) :
    ∃ n, bytes (c :: text) = n + 1 ∧ c.utf8Size ≤ n + 1 ∧ n + 1 - c.utf8Size = bytes text := by
  have := c.utf8Size_pos
  refine ⟨c.utf8Size + bytes text - 1, ?_, ?_, ?_⟩
  · rw [bytes_cons]
    omega
  · omega
  · omega

theorem bytes_pos {text : Text} (h : text ≠ []) : 0 < bytes text := by
  cases text with
  | nil => exact absurd rfl h
  | cons c text =>
    obtain ⟨n, hn, -⟩ := exists_bytes_cons c text
    omega

theorem bytes_eq_zero_iff {text : Text} : bytes text = 0 ↔ text = [] := by
  cases text with
  | nil => simp
  | cons c text =>
    have := bytes_pos (List.cons_ne_nil c text)
    simp only [reduceCtorEq, iff_false]
    omega

/-- A text that is cut behind some characters leaves the others. -/
theorem dropBytes?_append (before rest : Text) :
    (before ++ rest).dropBytes? (bytes before) = some rest := by
  induction before with
  | nil => exact dropBytes?_zero rest
  | cons c before ih =>
    obtain ⟨n, hn, hle, hsub⟩ := exists_bytes_cons c before
    rw [hn, List.cons_append, dropBytes?, if_pos hle, hsub, ih]

/-- The characters before a cut. -/
theorem takeBytes?_append (u after : Text) : (u ++ after).takeBytes? (bytes u) = some u := by
  induction u with
  | nil => exact takeBytes?_zero after
  | cons c u ih =>
    obtain ⟨n, hn, hle, hsub⟩ := exists_bytes_cons c u
    rw [hn, List.cons_append, takeBytes?, if_pos hle, hsub, ih]
    rfl

/-- The characters between two cuts. -/
theorem slice?_append (before u after : Text) :
    (before ++ (u ++ after)).slice? (bytes before) (bytes before + bytes u) = some u := by
  unfold slice?
  rw [if_neg (by omega), dropBytes?_append, Nat.add_sub_cancel_left]
  exact takeBytes?_append u after

/-- The character before a cut. -/
theorem charBefore?_append (before rest : Text) :
    (before ++ rest).charBefore? (bytes before) = before.getLast? := by
  induction before with
  | nil => exact charBefore?_zero rest
  | cons c before ih =>
    obtain ⟨n, hn, -, hsub⟩ := exists_bytes_cons c before
    rw [hn, List.cons_append, charBefore?, hsub, ih]
    cases before with
    | nil =>
      rw [bytes_nil] at hsub
      rw [if_pos (by omega)]
      rfl
    | cons d before =>
      have := bytes_pos (List.cons_ne_nil d before)
      rw [if_neg (by omega), List.getLast?_cons_cons]

end GrammarKit.Text
