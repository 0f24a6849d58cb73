import GrammarKit.Text.Casing
import Mathlib

/-!
# Characters with a lower case in ASCII

Besides the capitals from `A` to `Z` only one character has a small letter of ASCII
as its lower case, the Kelvin sign `K`, and none has another character of ASCII that is
not itself (`lower_eq_singleton`). Both are read off the table of lower cases
(`asciiTarget_lowerRanges`): a run of it that moves characters at all ends among them
in these two ways only.

The upper and the lower case of a character are not all the characters that share its
lower case: the others are `Unlisted`. Of the characters that share it with a character
of ASCII, only the Kelvin sign is (`unlisted_ascii`).
-/
namespace GrammarKit.Text.Casing

/-- The sign of the unit Kelvin, whose lower case is `k`. -/
def kelvin : Char := '\u212a'

/-- All that a run moves characters to is characters, and these are not in ASCII unless
the run is that of the capitals or that of the Kelvin sign. -/
def CaseRange.AsciiTarget (r : CaseRange) : Prop :=
  (r.last + r.shift < 0xd800 ∨ 0xdfff < r.first + r.shift ∧ r.last + r.shift < 0x110000) ∧
    (128 ≤ r.first + r.shift ∨ r.first = 0x41 ∧ r.last = 0x5a ∧ r.shift = 32 ∨
      r.first = 0x212a ∧ r.last = 0x212a ∧ r.shift = -8383)

instance (r : CaseRange) : Decidable r.AsciiTarget :=
  inferInstanceAs (Decidable (_ ∧ _))

theorem asciiTarget_lowerRanges : ∀ r ∈ lowerRanges, r.AsciiTarget := by decide +kernel

/-- A character that a table moves is in one of its runs. -/
theorem mapped?_spec {c d : Nat} {runs : List CaseRange} (h : mapped? c runs = some d) :
    ∃ r ∈ runs, r.first ≤ c ∧ c ≤ r.last ∧ d = ((c : Int) + r.shift).toNat := by
  induction runs with
  | nil => cases h
  | cons r runs ih =>
    unfold mapped? at h
    split at h
    · cases h
    · next hfirst =>
      split at h
      · next hlast => exact ⟨r, List.mem_cons_self, by omega, hlast.1, (Option.some.inj h).symm⟩
      · obtain ⟨r', hmem, hr'⟩ := ih h
        exact ⟨r', List.mem_cons_of_mem r hmem, hr'⟩

/-- Where the table takes a character to a character of ASCII. -/
theorem lowered_cases {c d : Nat} (h : mapped? c lowerRanges = some d) :
    d.isValidChar ∧ (128 ≤ d ∨ (0x41 ≤ c ∧ c ≤ 0x5a ∧ d = c + 32) ∨ (c = 0x212a ∧ d = 0x6b)) := by
  obtain ⟨r, hmem, hfirst, hlast, hd⟩ := mapped?_spec h
  obtain ⟨hvalid, htarget⟩ := asciiTarget_lowerRanges r hmem
  constructor
  · unfold Nat.isValidChar
    omega
  · omega

/-- The characters whose lower case is a given character of ASCII. -/
theorem lower_eq_singleton {c e : Char} (h : lower c = [e]) (he : e.toNat < 128) :
    c = e ∨ (0x41 ≤ c.toNat ∧ c.toNat ≤ 0x5a ∧ e.toNat = c.toNat + 32) ∨
      (c = kelvin ∧ e = 'k') := by
  unfold lower at h
  split at h
  · cases h
  · split at h
    · next d hd =>
      obtain ⟨hvalid, hcases⟩ := lowered_cases hd
      have hde : d = e.toNat := by
        rw [← List.singleton_inj.mp h, Char.toNat_ofNat, if_pos hvalid]
      rcases hcases with hd | ⟨hlo, hhi, hd⟩ | ⟨hc, hd⟩
      · omega
      · exact .inr (.inl ⟨hlo, hhi, by omega⟩)
      · refine .inr (.inr ⟨Char.toNat_inj.mp hc, Char.toNat_inj.mp ?_⟩)
        rw [← hde, hd]
        rfl
    · exact .inl (List.singleton_inj.mp h)

/-- A control character or a sign before the letters is the lower case of itself only. -/
theorem eq_of_lower_eq {c e : Char} (h : lower c = [e]) (he : e.toNat < 0x61) : c = e := by
  rcases lower_eq_singleton h (by omega) with rfl | ⟨hlo, -, hsum⟩ | ⟨-, rfl⟩
  · rfl
  · omega
  · exact absurd he (by decide)

/-! ## Cases that are not listed -/

/-- Both characters have the same lower case, but `c` is neither `d` nor among its
lower and its upper case. -/
def Unlisted (c d : Char) : Prop := lower c = lower d ∧ c ≠ d ∧ c ∉ lower d ∧ c ∉ upper d

instance (c d : Char) : Decidable (Unlisted c d) := inferInstanceAs (Decidable (_ ∧ _))

theorem lower_ascii : ∀ i < 128, lower (Char.ofNat i) =
    [Char.ofNat (if 0x41 ≤ i ∧ i ≤ 0x5a then i + 32 else i)] := by decide +kernel

theorem upper_small : ∀ i < 26, upper (Char.ofNat (i + 0x61)) = [Char.ofNat (i + 0x41)] := by
  decide +kernel

/-- The lower case of a character of ASCII is one. -/
theorem exists_lower_ascii {d : Char} (hd : d.toNat < 128) :
    ∃ e, lower d = [e] ∧ e.toNat < 128 := by
  have h := lower_ascii d.toNat hd
  rw [Char.ofNat_toNat] at h
  refine ⟨_, h, ?_⟩
  split
  · rw [Char.toNat_ofNat, if_pos (Or.inl (by omega))]
    omega
  · rwa [Char.ofNat_toNat]

/-- A capital is the upper case of its small letter. -/
theorem mem_upper_small {c e : Char} (hlo : 0x41 ≤ c.toNat) (hhi : c.toNat ≤ 0x5a)
    (he : e.toNat = c.toNat + 32) : c ∈ upper e := by
  have h := upper_small (c.toNat - 0x41) (by omega)
  rw [show c.toNat - 0x41 + 0x61 = e.toNat by omega, show c.toNat - 0x41 + 0x41 = c.toNat by omega,
    Char.ofNat_toNat, Char.ofNat_toNat] at h
  rw [h]
  exact List.mem_singleton_self c

/-- Among the characters with the lower case of a character of ASCII only the Kelvin
sign is not listed for it. -/
theorem unlisted_ascii {c d : Char} (hd : d.toNat < 128) (h : Unlisted c d) :
    c = kelvin ∧ (d = 'k' ∨ d = 'K') := by
  obtain ⟨hlower, hne, hnotLower, hnotUpper⟩ := h
  obtain ⟨e, hde, he⟩ := exists_lower_ascii hd
  rw [hde] at hlower hnotLower
  have hkelvin : d ≠ kelvin := by
    rintro rfl
    exact absurd hd (by decide)
  rcases lower_eq_singleton hlower he with rfl | ⟨hlo, hhi, hsum⟩ | ⟨rfl, rfl⟩
  · exact absurd (List.mem_singleton_self c) hnotLower
  · rcases lower_eq_singleton hde he with rfl | ⟨-, -, hsum'⟩ | ⟨hd, -⟩
    · exact absurd (mem_upper_small hlo hhi hsum) hnotUpper
    · exact absurd (Char.toNat_inj.mp (by omega)) hne
    · exact absurd hd hkelvin
  · refine ⟨rfl, ?_⟩
    rcases lower_eq_singleton hde he with hd | ⟨-, -, hsum⟩ | ⟨hd, -⟩
    · exact .inl hd
    · have hk : 'k'.toNat = 'K'.toNat + 32 := rfl
      exact .inr (Char.toNat_inj.mp (by omega))
    · exact absurd hd hkelvin

/-- The capital ß, the digraph ǅ and the signs for Kelvin, Ohm and Ångström are not
listed for the letters that they are written for. -/
example : Unlisted 'ẞ' 'ß' ∧ Unlisted 'ǅ' 'ǆ' ∧ Unlisted kelvin 'k' ∧ Unlisted '\u2126' 'ω' ∧
    Unlisted '\u212b' 'å' := by decide +kernel

end GrammarKit.Text.Casing
