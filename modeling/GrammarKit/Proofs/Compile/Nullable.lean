import GrammarKit.Compile.Nullable
import GrammarKit.Proofs.Derivation

/-!
# Rules that derive nothing

`nullable` marks exactly the rules from which the empty sequence is derivable
(`nullable_iff`), in every list of rules without loose ends.

A round marks only rules that derive nothing if the marks before it do
(`nullableRound_sound`), takes no mark back (`getD_nullableRound`), and adds one
as long as it changes anything; so the rounds end in marks that a further round
leaves as they are (`nullableRounds_stable`), and such marks are closed under the
rules (`mark_of_stable`).
-/
namespace GrammarKit.Compile

/-- Whether the place is marked. -/
def Marked (known : Array Bool) (i : Nat) : Prop := known.getD i false = true

theorem marked_set {known : Array Bool} {i j : Nat} :
    Marked (known.setIfInBounds i true) j ↔ Marked known j ∨ (j = i ∧ i < known.size) := by
  unfold Marked
  simp only [Array.getD_eq_getD_getElem?, Array.getElem?_setIfInBounds]
  by_cases hij : i = j
  · subst hij
    by_cases hi : i < known.size
    · simp [hi]
    · simp [hi]
  · simp [hij, Ne.symm hij]

/-- A step may be empty exactly if it has a marked alternative. -/
theorem mayBeEmpty_iff {known : Array Bool} {first : RuleId} {s : Step} :
    mayBeEmpty known first s = true ↔
      ∃ rs, s = .nonTerminal rs ∧ ∃ r ∈ rs, Marked known (r - first) := by
  cases s with
  | terminal ts => simp [mayBeEmpty]
  | nonTerminal rs => simp [mayBeEmpty, Marked]

/-! ## One round -/

section Round

variable {first : RuleId} {rules : List Rule}

/-- What a round does with one rule. -/
theorem nullableRound_cons (first : RuleId) (known : Array Bool) (i : Nat) (r : Rule)
    (rest : List Rule) : ∃ known', nullableRound first known i (r :: rest) =
        nullableRound first known' (i + 1) rest ∧
      ((r.steps.all (mayBeEmpty known first) = true ∧ known' = known.setIfInBounds i true) ∨
        (r.steps.all (mayBeEmpty known first) = false ∧ known' = known)) := by
  refine ⟨_, rfl, ?_⟩
  by_cases h : r.steps.all (mayBeEmpty known first) = true
  · exact Or.inl ⟨h, if_pos h⟩
  · exact Or.inr ⟨by simpa using h, if_neg h⟩

theorem size_nullableRound (known : Array Bool) (i : Nat) (rest : List Rule) :
    (nullableRound first known i rest).size = known.size := by
  induction rest generalizing known i with
  | nil => rfl
  | cons r rest ih =>
    obtain ⟨known', heq, ⟨-, rfl⟩ | ⟨-, rfl⟩⟩ := nullableRound_cons first known i r rest
    · rw [heq, ih, Array.size_setIfInBounds]
    · rw [heq, ih]

/-- A round takes no mark back. -/
theorem marked_nullableRound {known : Array Bool} {i j : Nat} {rest : List Rule}
    (h : Marked known j) : Marked (nullableRound first known i rest) j := by
  induction rest generalizing known i with
  | nil => exact h
  | cons r rest ih =>
    obtain ⟨known', heq, ⟨-, rfl⟩ | ⟨-, rfl⟩⟩ := nullableRound_cons first known i r rest
    · rw [heq]; exact ih (marked_set.mpr (Or.inl h))
    · rw [heq]; exact ih h

/-- Every mark is on a rule that derives nothing. -/
def MarksSound (first : RuleId) (rules : List Rule) (known : Array Bool) : Prop :=
  ∀ i, Marked known i → Derives rules [.rule (first + i)] []

/-- A step that may be empty vanishes. -/
theorem vanishes_of_mayBeEmpty (hl : Linked first rules) {known : Array Bool}
    (hs : MarksSound first rules known) {r : Rule} (hr : r ∈ rules) {s : Step} (hmem : s ∈ r.steps)
    (h : mayBeEmpty known first s = true) : s.Vanishes rules := by
  obtain ⟨rs, rfl, q, hq, hm⟩ := mayBeEmpty_iff.mp h
  have hb := hl.source_bounds r hr rs hmem q hq
  have := hs _ hm
  rw [show first + (q - first) = q by grind] at this
  exact ⟨q, hq, this⟩

/-- A round over the rules from place `i` on keeps the marks sound. -/
theorem nullableRound_sound (hl : Linked first rules) {known : Array Bool} {i : Nat}
    {rest : List Rule} (hrest : ∀ j r, rest[j]? = some r → rules[i + j]? = some r)
    (hs : MarksSound first rules known) :
    MarksSound first rules (nullableRound first known i rest) := by
  induction rest generalizing known i with
  | nil => exact hs
  | cons r rest ih =>
    have htail : ∀ j q, rest[j]? = some q → rules[i + 1 + j]? = some q := by
      intro j q hj
      have := hrest (j + 1) q (by simpa using hj)
      rwa [show i + 1 + j = i + (j + 1) by omega]
    obtain ⟨known', heq, ⟨hall, rfl⟩ | ⟨-, rfl⟩⟩ := nullableRound_cons first known i r rest
    · rw [heq]
      refine ih htail ?_
      intro j hj
      rcases marked_set.mp hj with hj | ⟨rfl, -⟩
      · exact hs j hj
      · have hi : rules[j]? = some r := by simpa using hrest 0 r rfl
        have hr := List.mem_of_getElem? hi
        have hv : ∀ s ∈ r.steps, s.Vanishes rules := fun s hmem =>
          vanishes_of_mayBeEmpty hl hs hr hmem (List.all_eq_true.mp hall s hmem)
        obtain ⟨body, hb, hd⟩ := exists_expands_of_vanishes hv
        rw [← hl.id_eq j r hi]
        exact (Derives.of_expands hr hb).trans hd
    · rw [heq]; exact ih htail hs

/-- Marks that a round leaves as they are have every rule whose steps may all be
empty. -/
theorem mark_of_stable {known : Array Bool} {i : Nat} {rest : List Rule}
    (hsize : i + rest.length ≤ known.size) (h : nullableRound first known i rest = known) {j : Nat}
    {r : Rule} (hj : rest[j]? = some r) (hall : r.steps.all (mayBeEmpty known first) = true) :
    Marked known (i + j) := by
  induction rest generalizing i j with
  | nil => simp at hj
  | cons q rest ih =>
    simp only [List.length_cons] at hsize
    obtain ⟨known', heq, hcase⟩ := nullableRound_cons first known i q rest
    rw [heq] at h
    have hmark : q.steps.all (mayBeEmpty known first) = true → Marked known i := by
      intro hq
      rcases hcase with ⟨-, rfl⟩ | ⟨hq', -⟩
      · rw [← h]
        exact marked_nullableRound (marked_set.mpr (Or.inr ⟨rfl, by omega⟩))
      · rw [hq] at hq'; cases hq'
    have hsame : known' = known := by
      rcases hcase with ⟨hq, rfl⟩ | ⟨-, rfl⟩
      · have hi := hmark hq
        apply Array.ext_getElem?
        intro k
        rw [Array.getElem?_setIfInBounds]
        split
        · rename_i hik
          subst hik
          unfold Marked at hi
          rw [Array.getD_eq_getD_getElem?] at hi
          have hlt : i < known.size := by omega
          simp only [hlt, if_true, Array.getElem?_eq_getElem, Option.getD_some] at hi ⊢
          rw [hi]
        · rfl
      · rfl
    cases j with
    | zero =>
      simp only [List.getElem?_cons_zero, Option.some.injEq] at hj
      subst hj
      exact hmark hall
    | succ j =>
      rw [hsame] at h
      have := ih (by omega) h (by simpa using hj)
      rwa [show i + (j + 1) = i + 1 + j by omega]

end Round

/-! ## All rounds -/

/-- Number of marks. -/
def markCount (known : Array Bool) : Nat := known.toList.count true

theorem count_true_lt {a b : List Bool} (hlen : a.length = b.length)
    (hle : ∀ i : Nat, a[i]? = some true → b[i]? = some true) (hne : a ≠ b) :
    a.count true < b.count true := by
  induction a generalizing b with
  | nil => cases b with
    | nil => exact absurd rfl hne
    | cons _ _ => simp at hlen
  | cons x a ih =>
    cases b with
    | nil => simp at hlen
    | cons y b =>
      have hlen' : a.length = b.length := by simpa using hlen
      have hle' : ∀ i : Nat, a[i]? = some true → b[i]? = some true := by
        intro i hi; simpa using hle (i + 1) (by simpa using hi)
      have hcount : a.count true ≤ b.count true := by
        by_cases hab : a = b
        · subst hab; exact Nat.le_refl _
        · exact Nat.le_of_lt (ih hlen' hle' hab)
      cases x with
      | true =>
        have hy : y = true := by simpa using hle 0 rfl
        subst hy
        have hab : a ≠ b := fun e => hne (by rw [e])
        simpa using ih hlen' hle' hab
      | false =>
        cases y with
        | true => simp only [List.count_cons]; simp; omega
        | false =>
          have hab : a ≠ b := fun e => hne (by rw [e])
          simpa using ih hlen' hle' hab

theorem marked_iff {known : Array Bool} {i : Nat} :
    Marked known i ↔ known.toList[i]? = some true := by
  unfold Marked
  rw [Array.getD_eq_getD_getElem?, Array.getElem?_toList]
  cases known[i]? with
  | none => simp
  | some b => simp

/-- A round that changes anything adds a mark. -/
theorem markCount_lt {first : RuleId} {rules : List Rule} {known : Array Bool}
    (h : nullableRound first known 0 rules ≠ known) :
    markCount known < markCount (nullableRound first known 0 rules) := by
  refine count_true_lt ?_ ?_ ?_
  · simp [size_nullableRound]
  · intro i hi
    exact marked_iff.mp (marked_nullableRound (marked_iff.mpr hi))
  · intro e
    exact h (Array.toList_inj.mp e.symm)

theorem markCount_le (known : Array Bool) : markCount known ≤ known.size := by
  have := List.count_le_length (a := true) (l := known.toList)
  simpa [markCount] using this

/-- With fuel for every mark that is missing, the rounds end in marks that a
further round leaves as they are. -/
theorem nullableRounds_stable (first : RuleId) (rules : List Rule) (fuel : Nat)
    (known : Array Bool) (hfuel : known.size ≤ fuel + markCount known) :
    (nullableRounds first rules fuel known).size = known.size ∧
      nullableRound first (nullableRounds first rules fuel known) 0 rules =
        nullableRounds first rules fuel known := by
  induction fuel generalizing known with
  | zero =>
    refine ⟨rfl, ?_⟩
    by_cases hstable : nullableRound first known 0 rules = known
    · exact hstable
    · -- every place is marked already
      have h1 := markCount_lt hstable
      have h2 := markCount_le (nullableRound first known 0 rules)
      rw [size_nullableRound] at h2
      omega
  | succ fuel ih =>
    unfold nullableRounds
    simp only
    split
    · rename_i heq
      exact ⟨rfl, heq⟩
    · rename_i hne
      have hlt := markCount_lt hne
      have hsize : (nullableRound first known 0 rules).size = known.size :=
        size_nullableRound known 0 rules
      obtain ⟨h1, h2⟩ := ih (nullableRound first known 0 rules) (by omega)
      exact ⟨h1.trans hsize, h2⟩

theorem nullableRounds_sound {first : RuleId} {rules : List Rule} (hl : Linked first rules)
    (fuel : Nat) {known : Array Bool} (hs : MarksSound first rules known) :
    MarksSound first rules (nullableRounds first rules fuel known) := by
  induction fuel generalizing known with
  | zero => exact hs
  | succ fuel ih =>
    unfold nullableRounds
    simp only
    split
    · exact hs
    · exact ih (nullableRound_sound hl (by simp) hs)

/-! ## The marks at the end -/

section Nullable

variable {first : RuleId} {rules : List Rule}

theorem nullable_sound (hl : Linked first rules) :
    MarksSound first rules (nullable first rules) := by
  refine nullableRounds_sound hl _ ?_
  intro i hi
  rw [marked_iff] at hi
  simp [List.getElem?_replicate] at hi

/-- Steps that expand to a form of marked rules may all be empty. -/
theorem all_mayBeEmpty_of_open {known : Array Bool} {steps : List Step} {body : Form}
    (hb : Expands steps body) (ho : Open (fun r => Marked known (r - first)) body) :
    ∀ s ∈ steps, mayBeEmpty known first s = true := by
  induction hb with
  | nil => simp
  | @cons s x steps body hx _ ih =>
    intro s' hs'
    cases s with
    | terminal ts =>
      obtain ⟨t, -, rfl⟩ := mem_symbols_terminal.mp hx
      exact ho.elim
    | nonTerminal rs =>
      obtain ⟨q, hq, rfl⟩ := mem_symbols_nonTerminal.mp hx
      rcases List.mem_cons.mp hs' with rfl | hs'
      · exact mayBeEmpty_iff.mpr ⟨rs, rfl, q, hq, ho.1⟩
      · exact ih ho.2 s' hs'

/-- The marks are closed under the rules. -/
theorem openClosed_nullable (hl : Linked first rules) :
    OpenClosed rules fun r => Marked (nullable first rules) (r - first) := by
  intro r hr body hb ho
  obtain ⟨hsize, hstable⟩ := nullableRounds_stable first rules rules.length
    (Array.replicate rules.length false) (by simp)
  simp only [Array.size_replicate] at hsize
  have hall := List.all_eq_true.mpr (all_mayBeEmpty_of_open hb ho)
  have := mark_of_stable (by rw [hsize]; omega) hstable (hl.getElem?_of_mem hr) hall
  rwa [Nat.zero_add] at this

/-- **Exactness.** The marked rules are those that derive nothing. -/
theorem nullable_iff (hl : Linked first rules) {q : RuleId} (h : first ≤ q) :
    Marked (nullable first rules) (q - first) ↔ Derives rules [.rule q] [] := by
  constructor
  · intro hm
    have := nullable_sound hl _ hm
    rwa [show first + (q - first) = q by grind] at this
  · intro hd
    exact (open_of_derives (openClosed_nullable hl) hd trivial).1

/-- A step of a rule may be empty exactly if it vanishes. -/
theorem mayBeEmpty_nullable_iff (hl : Linked first rules) {r : Rule} (hr : r ∈ rules) {s : Step}
    (hmem : s ∈ r.steps) :
    mayBeEmpty (nullable first rules) first s = true ↔ s.Vanishes rules := by
  constructor
  · exact vanishes_of_mayBeEmpty hl (nullable_sound hl) hr hmem
  · intro hv
    cases s with
    | terminal ts => exact hv.elim
    | nonTerminal rs =>
      obtain ⟨q, hq, hd⟩ := hv
      have hb := hl.source_bounds r hr rs hmem q hq
      exact mayBeEmpty_iff.mpr ⟨rs, rfl, q, hq, (nullable_iff hl hb.1).mpr hd⟩

end Nullable

end GrammarKit.Compile
