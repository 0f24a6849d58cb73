import GrammarKit.Proofs.Lexing.FirstChars

/-!
# Which literal of a set matches

A set of literals has them sorted once, those of more bytes first, and the first one that
the text begins with matches. So the literal that matches `Leads`: among the declared ones
that the text begins with none has more bytes, and none before it has as many.

With case this is the longest match, as a literal consumes its own bytes. Without case it
consumes as many characters as it has, of whatever width, and the one of the most bytes
need not be the one of the most characters: the Kelvin sign has more bytes than two
letters `k` and comes before them (`LiteralSet.longest_of_twoLetters`).
`LiteralSet.matchLen_ofList` says when the match is the longest one.
-/
namespace GrammarKit

/-- More characters of a text are more bytes. -/
theorem Text.bytes_take_le_iff {text : Text} {m n : Nat} (hm : m ≤ text.length) :
    Text.bytes (text.take m) ≤ Text.bytes (text.take n) ↔ m ≤ n := by
  have hsplit : ∀ {i j : Nat}, i ≤ j →
      Text.bytes (text.take j) =
        Text.bytes (text.take i) + Text.bytes ((text.drop i).take (j - i)) := by
    intro i j hij
    rw [← Text.bytes_append, ← List.take_add, Nat.add_sub_cancel' hij]
  constructor
  · intro hle
    by_contra hlt
    have hrest : (text.drop n).take (m - n) ≠ [] := by
      refine List.ne_nil_of_length_pos ?_
      rw [List.length_take, List.length_drop]
      omega
    have := Text.bytes_pos hrest
    have := hsplit (Nat.le_of_not_le hlt)
    omega
  · intro hle
    have := hsplit hle
    omega

/-- A running maximum is no more than a bound of its start and every number. -/
theorem foldl_max_le {l : List Nat} {n start : Nat} (hstart : start ≤ n) (h : ∀ m ∈ l, m ≤ n) :
    l.foldl Nat.max start ≤ n := by
  induction l generalizing start with
  | nil => exact hstart
  | cons m l ih =>
    obtain ⟨hm, hl⟩ := List.forall_mem_cons.mp h
    exact ih (Nat.max_le.mpr ⟨hstart, hm⟩) hl

namespace LiteralSet

/-- Bytes of a text that a literal consumes; zero if the text does not begin with it. -/
def consumed (cs : Bool) (text literal : Text) : Nat :=
  if beginsWith cs text literal then Text.bytes (text.take literal.length) else 0

/-- The most bytes of a text that one of some literals consumes. -/
def longest (cs : Bool) (literals : List Text) (text : Text) : Nat :=
  (literals.map (consumed cs text)).foldl Nat.max 0

/-- The text begins with the literal, with none of more bytes, and with none before it of
as many. -/
def Leads (cs : Bool) (text : Text) (literals : List Text) (l : Text) : Prop :=
  ∃ before after, literals = before ++ l :: after ∧ beginsWith cs text l = true ∧
    (∀ x ∈ before, beginsWith cs text x = true → Text.bytes x < Text.bytes l) ∧
    ∀ x ∈ after, beginsWith cs text x = true → Text.bytes x ≤ Text.bytes l

variable {cs : Bool} {text l : Text} {literals : List Text}

/-! ## The sorted literals -/

/-- The order in which a set has its literals. -/
def bytesFirst (a b : Text) : Bool := Text.bytes b ≤ Text.bytes a

theorem bytesFirst_trans (a b c : Text) (hab : bytesFirst a b = true)
    (hbc : bytesFirst b c = true) : bytesFirst a c = true :=
  decide_eq_true (Nat.le_trans (of_decide_eq_true hbc) (of_decide_eq_true hab))

theorem bytesFirst_total (a b : Text) : (bytesFirst a b || bytesFirst b a) = true := by
  simpa [bytesFirst] using Nat.le_total (Text.bytes b) (Text.bytes a)

/-- Literals of as many bytes stay in the order in which they are declared. -/
theorem filter_mergeSort_bytesFirst {p : Text → Bool} {n : Nat}
    (hp : ∀ x, p x = true → Text.bytes x = n) :
    (literals.mergeSort bytesFirst).filter p = literals.filter p := by
  have hlevel : (literals.filter p).Pairwise fun a b => bytesFirst a b = true := by
    refine List.pairwise_of_forall_mem_list fun a ha b hb => decide_eq_true ?_
    rw [hp a (List.mem_filter.mp ha).2, hp b (List.mem_filter.mp hb).2]
  have hsub : List.Sublist (literals.filter p) (literals.mergeSort bytesFirst) :=
    List.sublist_mergeSort bytesFirst_trans bytesFirst_total hlevel List.filter_sublist
  have hsub : List.Sublist (literals.filter p) ((literals.mergeSort bytesFirst).filter p) := by
    simpa only [List.filter_filter, Bool.and_self] using hsub.filter p
  refine (hsub.eq_of_length ?_).symm
  exact ((List.mergeSort_perm literals bytesFirst).filter p).length_eq.symm

theorem find?_mergeSort_bytesFirst {p : Text → Bool} {n : Nat}
    (hp : ∀ x, p x = true → Text.bytes x = n) :
    (literals.mergeSort bytesFirst).find? p = literals.find? p := by
  rw [← List.head?_filter, filter_mergeSort_bytesFirst hp, List.head?_filter]

/-- The first sorted literal of some kind has the most bytes of that kind. -/
theorem bytes_le_of_find? {p : Text → Bool}
    (h : (literals.mergeSort bytesFirst).find? p = some l) {x : Text} (hx : x ∈ literals)
    (hpx : p x = true) : Text.bytes x ≤ Text.bytes l := by
  obtain ⟨-, front, back, hsorted, hfront⟩ := List.find?_eq_some_iff_append.mp h
  have hpair := List.pairwise_mergeSort bytesFirst_trans bytesFirst_total literals
  have hx : x ∈ literals.mergeSort bytesFirst := List.mem_mergeSort.mpr hx
  rw [hsorted] at hx
  rw [hsorted, List.pairwise_append, List.pairwise_cons] at hpair
  rcases List.mem_append.mp hx with hx | hx
  · exact absurd hpx (by simpa using hfront x hx)
  · rcases List.mem_cons.mp hx with rfl | hx
    · exact Nat.le_refl _
    · exact of_decide_eq_true (hpair.2.1.1 x hx)

/-- The first sorted literal that the text begins with is the one that leads. -/
theorem leads_of_find? (h : (literals.mergeSort bytesFirst).find? (beginsWith cs text) = some l) :
    Leads cs text literals l := by
  have hmost := fun {x} => bytes_le_of_find? (x := x) h
  -- Among the literals of as many bytes sorting keeps the first one first.
  let level := fun x => beginsWith cs text x && Text.bytes x == Text.bytes l
  have hfind : literals.find? level = some l := by
    obtain ⟨hbegins, front, back, hsorted, hfront⟩ := List.find?_eq_some_iff_append.mp h
    rw [← find?_mergeSort_bytesFirst (n := Text.bytes l) (by simp [level])]
    refine List.find?_eq_some_iff_append.mpr
      ⟨by simp [level, hbegins], front, back, hsorted, fun x hx => ?_⟩
    have hmiss : beginsWith cs text x = false := by simpa using hfront x hx
    simp [level, hmiss]
  obtain ⟨-, before, after, rfl, hbefore⟩ := List.find?_eq_some_iff_append.mp hfind
  refine ⟨before, after, rfl, List.find?_some h, fun x hx hmatch => ?_,
    fun x hx => hmost (by simp [hx])⟩
  refine Nat.lt_of_le_of_ne (hmost (by simp [hx]) hmatch) fun heq => ?_
  simpa [level, hmatch, heq] using hbefore x hx

/-! ## The longest match -/

theorem length_le_of_beginsWith (h : beginsWith cs text l = true) : l.length ≤ text.length := by
  have := (length_of_beginsWith h).1
  rw [List.length_take] at this
  omega

/-- A literal that the text begins with consumes the most bytes exactly if no other one has
more characters. -/
theorem longest_le_consumed_iff (hbegins : beginsWith cs text l = true) :
    longest cs literals text ≤ consumed cs text l ↔
      ∀ x ∈ literals, beginsWith cs text x = true → x.length ≤ l.length := by
  have hconsumed : ∀ {x : Text}, beginsWith cs text x = true →
      (consumed cs text x ≤ consumed cs text l ↔ x.length ≤ l.length) := by
    intro x hx
    rw [consumed, consumed, if_pos hx, if_pos hbegins]
    exact Text.bytes_take_le_iff (length_le_of_beginsWith hx)
  constructor
  · intro hle x hx hmatch
    refine (hconsumed hmatch).mp (Nat.le_trans ?_ hle)
    exact le_foldl_max (.inr (List.mem_map_of_mem hx))
  · intro hall
    refine foldl_max_le (Nat.zero_le _) (List.forall_mem_map.mpr fun x hx => ?_)
    by_cases hmatch : beginsWith cs text x = true
    · exact (hconsumed hmatch).mpr (hall x hx hmatch)
    · simp [consumed, hmatch]

namespace Leads

theorem begins (h : Leads cs text literals l) : beginsWith cs text l = true := by
  obtain ⟨-, -, -, hbegins, -⟩ := h
  exact hbegins

theorem mem (h : Leads cs text literals l) : l ∈ literals := by
  obtain ⟨before, after, rfl, -⟩ := h
  simp

theorem bytes_le (h : Leads cs text literals l) {x : Text} (hx : x ∈ literals)
    (hmatch : beginsWith cs text x = true) : Text.bytes x ≤ Text.bytes l := by
  obtain ⟨before, after, rfl, -, hbefore, hafter⟩ := h
  rcases List.mem_append.mp hx with hx | hx
  · exact Nat.le_of_lt (hbefore x hx hmatch)
  · rcases List.mem_cons.mp hx with rfl | hx
    · exact Nat.le_refl _
    · exact hafter x hx hmatch

/-- With case more bytes are more characters of the text. -/
theorem length_le_of_case (h : Leads true text literals l) {x : Text} (hx : x ∈ literals)
    (hmatch : beginsWith true text x = true) : x.length ≤ l.length := by
  have hle := h.bytes_le hx hmatch
  rw [← (length_of_beginsWith hmatch).2 rfl, ← (length_of_beginsWith h.begins).2 rfl] at hle
  exact (Text.bytes_take_le_iff (length_le_of_beginsWith hmatch)).mp hle

end Leads

/-- What a set matches at the front of a text: what its leading literal consumes, and
nothing if the text begins with none. -/
theorem bytes_matchChars {s : LiteralSet} (hs : ofList literals cs = .ok s) (text : Text) :
    (∃ l, Leads cs text literals l ∧
      Text.bytes (text.take (s.matchChars text)) = consumed cs text l) ∨
    ((∀ l ∈ literals, beginsWith cs text l = false) ∧
      Text.bytes (text.take (s.matchChars text)) = 0) := by
  obtain rfl : s = ⟨literals.mergeSort bytesFirst, cs⟩ := by
    unfold ofList at hs
    split at hs
    · cases hs
    · exact (Except.ok.inj hs).symm
  unfold matchChars
  cases hfind : (literals.mergeSort bytesFirst).find? (beginsWith cs text) with
  | none =>
    refine .inr ⟨fun l hl => ?_, rfl⟩
    simpa using List.find?_eq_none.mp hfind l (List.mem_mergeSort.mpr hl)
  | some l =>
    have hleads := leads_of_find? hfind
    refine .inl ⟨l, hleads, ?_⟩
    rw [consumed, if_pos hleads.begins]
    rfl

/-- **A literal set matches its leading literal.** There is a set of some literals exactly if
none is empty. Its match at the front of a text is never longer than the longest one of its
literals, and it is what the leading literal consumes: the longest one exactly if no literal
that the text begins with has more characters. It always is the longest one with case, and
without case if in the set fewer characters take fewer bytes, as they do in ASCII. -/
theorem matchLen_ofList (literals : List Text) (cs : Bool) :
    ((∃ s, ofList literals cs = .ok s) ↔ ∀ l ∈ literals, l ≠ []) ∧
    ∀ s text, ofList literals cs = .ok s → ∃ n, (Matcher.literals s).matchLen text 0 = .ok n ∧
      n ≤ longest cs literals text ∧
      ((∃ l, Leads cs text literals l ∧ n = consumed cs text l ∧
        (n = longest cs literals text ↔
          ∀ x ∈ literals, beginsWith cs text x = true → x.length ≤ l.length)) ∨
      ((∀ l ∈ literals, beginsWith cs text l = false) ∧ n = 0 ∧
        longest cs literals text = 0)) ∧
      (cs = true → n = longest cs literals text) ∧
      ((∀ x ∈ literals, ∀ y ∈ literals, x.length < y.length → Text.bytes x < Text.bytes y) →
        n = longest cs literals text) := by
  have hmade : (∃ s, ofList literals cs = .ok s) ↔ ∀ l ∈ literals, l ≠ [] := by
    unfold ofList
    split
    · next hempty => simpa using hempty
    · next hnonempty =>
      have hall : [] ∉ literals := by simpa using hnonempty
      exact ⟨fun _ l hl hnil => hall (hnil ▸ hl), fun _ => ⟨_, rfl⟩⟩
  refine ⟨hmade, fun s text hs => ⟨Text.bytes (text.take (s.matchChars text)), ?_, ?_⟩⟩
  · rw [Matcher.matchLen, Text.dropBytes?_zero]
    rfl
  rcases bytes_matchChars hs text with ⟨l, hleads, hbytes⟩ | ⟨hnone, hbytes⟩
  · have hle : consumed cs text l ≤ longest cs literals text :=
      le_foldl_max (.inr (List.mem_map_of_mem hleads.mem))
    have hlongest : consumed cs text l = longest cs literals text ↔
        ∀ x ∈ literals, beginsWith cs text x = true → x.length ≤ l.length := by
      rw [← longest_le_consumed_iff hleads.begins]
      exact ⟨fun heq => Nat.le_of_eq heq.symm, Nat.le_antisymm hle⟩
    rw [hbytes]
    refine ⟨hle, .inl ⟨l, hleads, rfl, hlongest⟩, fun hcs => ?_, fun hshort => ?_⟩
    · subst hcs
      exact hlongest.mpr fun x => hleads.length_le_of_case
    · refine hlongest.mpr fun x hx hmatch => Nat.le_of_not_lt fun hlt => ?_
      exact absurd (hshort l hleads.mem x hx hlt) (Nat.not_lt.mpr (hleads.bytes_le hx hmatch))
  · have hzero : longest cs literals text = 0 := by
      refine Nat.eq_zero_of_le_zero (foldl_max_le (Nat.le_refl 0) ?_)
      exact List.forall_mem_map.mpr fun x hx => by simp [consumed, hnone x hx]
    rw [hbytes, hzero]
    exact ⟨Nat.le_refl 0, .inr ⟨hnone, rfl, rfl⟩, fun _ => rfl, fun _ => rfl⟩

/-- The sign for Kelvin has three bytes and comes before two letters, which it matches the
first of. -/
theorem longest_of_twoLetters :
    ∃ s, ofList [[Text.Casing.kelvin], ['k', 'k']] false = .ok s ∧
      (Matcher.literals s).matchLen ['k', 'k'] 0 = .ok 1 ∧
      longest false [[Text.Casing.kelvin], ['k', 'k']] ['k', 'k'] = 2 := by
  refine ⟨⟨[[Text.Casing.kelvin], ['k', 'k']], false⟩, ?_, by decide +kernel, by decide +kernel⟩
  unfold ofList
  rw [if_neg (by decide), List.mergeSort_of_pairwise (by decide)]

end LiteralSet
end GrammarKit
