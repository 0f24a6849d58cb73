import GrammarKit.Proofs.Compile.Nullable
import GrammarKit.Proofs.Fault

/-!
# Rules that can match nothing, without a bound

`nullable` goes over the rules a number of times that is worked out beforehand.
`Emptiness.Runs` goes over them until a round finds nothing more, however many rounds
that takes. It passes over the rules that are marked, and it looks up the mark of every
rule that it comes to. Such a loop can go on for ever, and a mark can be missing.

`nullable_exact`: if the rules are numbered from the first one on and refer to each other
only, the loop ends, finds every mark, and gives what `nullable` gives. The marked rules are
those that derive the empty sequence, whether or not the rules go round in circles.

A round takes no mark back, so it tells that it has found something exactly if it changes
the marks (`foldlM_visit`). The rounds that are worked out beforehand end in marks that a
further round leaves as they are (`runs_rounds`).
-/
namespace GrammarKit.Compile

namespace Emptiness

/-! ## The loop -/

/-- The mark of a rule. -/
def mark (known : Array Bool) (first : RuleId) (q : RuleId) : Except Fault Bool :=
  if q < first then .error .outOfRange else require .outOfRange known[q - first]?

/-- Whether an alternative of the step is marked. The alternatives are tried in order. -/
def stepMark (known : Array Bool) (first : RuleId) : Step → Except Fault Bool
  | .terminal _ => .ok false
  | .nonTerminal rules => rules.anyM (mark known first)

/-- Marks the rule at a place if all of its steps have a marked alternative, and notes that
it has done so. A rule that is marked already is passed over. -/
def visit (first : RuleId) (state : Array Bool × Bool) (entry : Rule × Nat) :
    Except Fault (Array Bool × Bool) := do
  let (known, found) := state
  let (r, i) := entry
  let marked ← require .outOfRange known[i]?
  if marked then .ok (known, found)
  else
    let vanishes ← r.steps.allM (stepMark known first)
    if vanishes then .ok (known.setIfInBounds i true, true) else .ok (known, found)

/-- One round over all rules: the marks after it, and whether it has found a rule. -/
def round (first : RuleId) (rules : List Rule) (known : Array Bool) :
    Except Fault (Array Bool × Bool) :=
  rules.zipIdx.foldlM (visit first) (known, false)

/-- Going over the rules until a round finds nothing ends with a result: the marks, or a
fault. A loop that goes on for ever has none. -/
inductive Runs (first : RuleId) (rules : List Rule) :
    Array Bool → Except Fault (Array Bool) → Prop where
  | done {known known' : Array Bool} : round first rules known = .ok (known', false) →
      Runs first rules known (.ok known')
  | fault {known : Array Bool} {e : Fault} : round first rules known = .error e →
      Runs first rules known (.error e)
  | again {known known' : Array Bool} {result : Except Fault (Array Bool)} :
      round first rules known = .ok (known', true) → Runs first rules known' result →
      Runs first rules known result

/-- A loop has one result at most. -/
theorem Runs.unique {first : RuleId} {rules : List Rule} {known : Array Bool}
    {result result' : Except Fault (Array Bool)} (h : Runs first rules known result)
    (h' : Runs first rules known result') : result = result' := by
  induction h with
  | done hround =>
    cases h' with
    | done hround' =>
      cases hround.symm.trans hround'
      rfl
    | fault hround' => cases hround.symm.trans hround'
    | again hround' => cases hround.symm.trans hround'
  | fault hround =>
    cases h' with
    | done hround' => cases hround.symm.trans hround'
    | fault hround' =>
      cases hround.symm.trans hround'
      rfl
    | again hround' => cases hround.symm.trans hround'
  | again hround _ ih =>
    cases h' with
    | done hround' => cases hround.symm.trans hround'
    | fault hround' => cases hround.symm.trans hround'
    | again hround' h' =>
      cases hround.symm.trans hround'
      exact ih h'

/-! ## Every mark is found -/

section Found

variable {first : RuleId} {rules : List Rule} {known known' : Array Bool}

theorem mark_eq {q : RuleId} (hlow : first ≤ q) (hhigh : q < first + known.size) :
    mark known first q = .ok (known.getD (q - first) false) := by
  rw [mark, if_neg (Nat.not_lt.mpr hlow)]
  exact require_getElem? (Nat.sub_lt_left_of_lt_add hlow hhigh) false

/-- The marks of the alternatives of a step are found if they are those of the rules. -/
theorem stepMark_eq {s : Step}
    (h : ∀ rs, s = .nonTerminal rs → ∀ q ∈ rs, first ≤ q ∧ q < first + known.size) :
    stepMark known first s = .ok (mayBeEmpty known first s) := by
  cases s with
  | terminal ts => rfl
  | nonTerminal rs =>
    refine anyM_eq_any fun q hq => ?_
    obtain ⟨hlow, hhigh⟩ := h rs rfl q hq
    exact mark_eq hlow hhigh

theorem marked_iff_getElem {i : Nat} (hi : i < known.size) :
    Marked known i ↔ known[i] = true := by
  rw [Marked, Array.getD_eq_getD_getElem?, Array.getElem?_eq_getElem hi]
  rfl

/-- Marks of one number of places are told by the places that are marked. -/
theorem eq_of_marked_iff (hsize : known.size = known'.size)
    (h : ∀ i, Marked known i ↔ Marked known' i) : known = known' := by
  refine Array.ext hsize fun i hi hi' => ?_
  have hiff := h i
  rw [marked_iff_getElem hi, marked_iff_getElem hi'] at hiff
  exact Bool.eq_iff_iff.mpr hiff

/-- Marking a place that is marked changes nothing. -/
theorem set_eq_self_iff {i : Nat} (hi : i < known.size) :
    known.setIfInBounds i true = known ↔ Marked known i := by
  constructor
  · intro h
    rw [← h]
    exact marked_set.mpr (.inr ⟨rfl, hi⟩)
  · intro h
    refine eq_of_marked_iff (Array.size_setIfInBounds ..) fun j => ?_
    rw [marked_set]
    constructor
    · rintro (hj | ⟨rfl, -⟩)
      · exact hj
      · exact h
    · exact Or.inl

/-- A visit does what `nullableRound` does with one rule, and notes whether marks change. -/
theorem visit_eq {r : Rule} {i : Nat} (hi : i < known.size) (found : Bool)
    (h : ∀ rs, Step.nonTerminal rs ∈ r.steps → ∀ q ∈ rs, first ≤ q ∧ q < first + known.size)
    (hnext : known' = if r.steps.all (mayBeEmpty known first) then known.setIfInBounds i true
      else known) :
    ∃ found', visit first (known, found) (r, i) = .ok (known', found') ∧
      (found' = true ↔ found = true ∨ known' ≠ known) := by
  have hall : r.steps.allM (stepMark known first) =
      .ok (r.steps.all (mayBeEmpty known first)) := by
    refine allM_eq_all fun s hs => stepMark_eq fun rs heq => ?_
    exact h rs (heq ▸ hs)
  have hsame := set_eq_self_iff hi
  unfold visit
  dsimp only
  rw [require_getElem? hi false, ok_bind, hall, ok_bind]
  cases hmark : known.getD i false with
  | true =>
    have hknown : known' = known := by
      rw [hnext, hsame.mpr hmark, ite_self]
    rw [hknown]
    exact ⟨found, rfl, by simp⟩
  | false =>
    have hunmarked : ¬ Marked known i := by simp [Marked, hmark]
    cases hv : r.steps.all (mayBeEmpty known first) with
    | true =>
      rw [hv, if_pos rfl] at hnext
      have hne : known' ≠ known := by rwa [hnext, Ne, hsame]
      exact ⟨true, by rw [hnext]; rfl, by simp [hne]⟩
    | false =>
      have hknown : known' = known := by simpa [hv] using hnext
      rw [hknown]
      exact ⟨found, rfl, by simp⟩

/-- Marks that are only added to differ in the end if they differ on the way. -/
theorem ne_or_ne_iff {a b c : Array Bool} (hsize : a.size = b.size)
    (hab : ∀ i, Marked a i → Marked b i) (hbc : ∀ i, Marked b i → Marked c i) :
    b ≠ a ∨ c ≠ b ↔ c ≠ a := by
  constructor
  · intro h hca
    have hba : b = a := eq_of_marked_iff hsize.symm fun i => ⟨fun hb => hca ▸ hbc i hb, hab i⟩
    rcases h with h | h
    · exact h hba
    · exact h (hca.trans hba.symm)
  · intro h
    by_cases hba : b = a
    · exact Or.inr (hba ▸ h)
    · exact Or.inl hba

/-- Visiting the rules from place `i` on gives the marks of a round over them. It has found
something exactly if these differ from the marks before. -/
theorem foldlM_visit {rest : List Rule} {i : Nat} (hi : i + rest.length ≤ known.size)
    (h : ∀ r ∈ rest, ∀ rs, Step.nonTerminal rs ∈ r.steps →
      ∀ q ∈ rs, first ≤ q ∧ q < first + known.size) (found : Bool) :
    ∃ found', (rest.zipIdx i).foldlM (visit first) (known, found) =
        .ok (nullableRound first known i rest, found') ∧
      (found' = true ↔ found = true ∨ nullableRound first known i rest ≠ known) := by
  induction rest generalizing known i found with
  | nil => exact ⟨found, rfl, by simp [nullableRound]⟩
  | cons r rest ih =>
    obtain ⟨hr, hrest⟩ := List.forall_mem_cons.mp h
    rw [List.length_cons] at hi
    obtain ⟨next, hround, hcase⟩ := nullableRound_cons first known i r rest
    have hnext : next = if r.steps.all (mayBeEmpty known first) then known.setIfInBounds i true
        else known := by
      rcases hcase with ⟨hv, rfl⟩ | ⟨hv, rfl⟩
      · rw [hv, if_pos rfl]
      · rw [hv, if_neg Bool.false_ne_true]
    have hsize : known.size = next.size := by
      rw [hnext]
      split
      · exact Array.size_setIfInBounds.symm
      · rfl
    have hkept : ∀ j, Marked known j → Marked next j := by
      intro j hj
      rw [hnext]
      split
      · exact marked_set.mpr (.inl hj)
      · exact hj
    obtain ⟨mid, hvisit, hmid⟩ := visit_eq (by omega) found hr hnext
    obtain ⟨found', hfold, hfound⟩ := ih (i := i + 1) (by omega) (hsize ▸ hrest) mid
    rw [List.zipIdx_cons, List.foldlM_cons, hvisit, ok_bind, hround]
    refine ⟨found', hfold, ?_⟩
    rw [hfound, hmid, or_assoc, ne_or_ne_iff hsize hkept fun j => marked_nullableRound]

/-! ## The loop ends -/

theorem round_eq (hl : Linked first rules) (hsize : known.size = rules.length) :
    ∃ found, round first rules known = .ok (nullableRound first known 0 rules, found) ∧
      (found = true ↔ nullableRound first known 0 rules ≠ known) := by
  obtain ⟨found, hround, hfound⟩ := foldlM_visit (i := 0) (by omega) (hsize ▸ hl.source_bounds) false
  exact ⟨found, hround, by simpa using hfound⟩

/-- With as many rounds as `nullableRounds_stable` asks for, the loop ends. -/
theorem runs_rounds (hl : Linked first rules) (fuel : Nat) (hsize : known.size = rules.length)
    (hfuel : known.size ≤ fuel + markCount known) :
    Runs first rules known (.ok (nullableRounds first rules fuel known)) := by
  induction fuel generalizing known with
  | zero =>
    obtain ⟨found, hround, hfound⟩ := round_eq hl hsize
    -- every place is marked, so the round cannot add a mark
    have hstable : nullableRound first known 0 rules = known :=
      (nullableRounds_stable first rules 0 known hfuel).2
    have hnone : found = false := by simpa [hstable] using hfound
    rw [hnone, hstable] at hround
    exact .done hround
  | succ fuel ih =>
    obtain ⟨found, hround, hfound⟩ := round_eq hl hsize
    unfold nullableRounds
    dsimp only
    split
    · next hstable =>
      have hnone : found = false := by simpa [hstable] using hfound
      rw [hnone, hstable] at hround
      exact .done hround
    · next hchanged =>
      rw [hfound.mpr hchanged] at hround
      have hmore := markCount_lt hchanged
      have hlength : (nullableRound first known 0 rules).size = known.size :=
        size_nullableRound known 0 rules
      exact .again hround (ih (hlength.trans hsize) (by omega))

end Found
end Emptiness

/-! ## The result -/

section Exact

variable {first : RuleId} {rules : List Rule}

/-- Rules that are numbered one after the other and refer to each other have no loose ends. -/
theorem linked_of_ids (hids : rules.map (·.id) = List.range' first rules.length)
    (hsources : ∀ r ∈ rules, ∀ s ∈ r.steps, s.isTerminal = false →
      ∀ q ∈ s.sources, ∃ r' ∈ rules, r'.id = q) : Linked first rules where
  id_eq := by
    intro i r hr
    obtain ⟨hi, -⟩ := List.getElem?_eq_some_iff.mp hr
    have hid : (rules.map (·.id))[i]? = some r.id := by
      rw [List.getElem?_map, hr]
      rfl
    rw [hids, List.getElem?_range' hi, Nat.one_mul] at hid
    exact (Option.some.inj hid).symm
  source_bounds := by
    intro r hr rs hrs q hq
    obtain ⟨r', hr', rfl⟩ := hsources r hr _ hrs rfl q hq
    have hmem : r'.id ∈ rules.map (·.id) := List.mem_map_of_mem hr'
    rw [hids] at hmem
    exact List.mem_range'_1.mp hmem

/-- **Rules that derive nothing.** For rules that are numbered one after the other and refer to
each other only, going over them until a round finds nothing comes to an end and finds every mark.
The marks are one for each rule, and a rule is marked exactly if the empty sequence is derivable
from it. -/
theorem nullable_exact (hids : rules.map (·.id) = List.range' first rules.length)
    (hsources : ∀ r ∈ rules, ∀ s ∈ r.steps, s.isTerminal = false →
      ∀ q ∈ s.sources, ∃ r' ∈ rules, r'.id = q) :
    (∀ result, Emptiness.Runs first rules (Array.replicate rules.length false) result ↔
        result = .ok (nullable first rules)) ∧
      (nullable first rules).size = rules.length ∧
      ∀ (i : Nat) (r : Rule), rules[i]? = some r →
        ((nullable first rules)[i]? = some true ↔ Derives rules [.rule r.id] []) := by
  have hl := linked_of_ids hids hsources
  have hstart : (Array.replicate rules.length false).size = rules.length := Array.size_replicate
  have hfuel : (Array.replicate rules.length false).size ≤
      rules.length + markCount (Array.replicate rules.length false) := by omega
  refine ⟨fun result => ?_, ?_, fun i r hr => ?_⟩
  · have hrun := Emptiness.runs_rounds hl rules.length hstart hfuel
    constructor
    · intro h
      exact h.unique hrun
    · rintro rfl
      exact hrun
  · exact (nullableRounds_stable first rules rules.length _ hfuel).1.trans hstart
  · have hid := hl.id_eq i r hr
    have hplace : r.id - first = i := by rw [hid]; exact Nat.add_sub_cancel_left first i
    rw [← nullable_iff hl (hid ▸ Nat.le_add_right first i), hplace, marked_iff,
      Array.getElem?_toList]

/-- Rules that go round in circles. Every rule that derives nothing comes before the one that it
derives nothing by. -/
def circularRules : List Rule :=
  let rule (id : RuleId) (steps : List Step) : Rule :=
    ⟨id, ⟨0, 0⟩, .declared "circle" 0, steps, [], [], []⟩
  [rule 3 [.nonTerminal [4]], rule 4 [.nonTerminal [3, 5]],
    rule 5 [.nonTerminal [6], .nonTerminal [8, 6]], rule 6 [],
    rule 7 [.nonTerminal [7, 8]], rule 8 [.nonTerminal [6], .nonTerminal [7]],
    rule 9 [.nonTerminal [6], .terminal [0]]]

/-- Two rules derive nothing although they derive each other, and two others do not because they
derive only each other. -/
theorem nullable_of_circularRules :
    Emptiness.Runs 3 circularRules (Array.replicate 7 false)
        (.ok #[true, true, true, true, false, false, false]) ∧
      Derives circularRules [.rule 3] [] ∧ ¬ Derives circularRules [.rule 7] [] := by
  have hmarks : nullable 3 circularRules = #[true, true, true, true, false, false, false] := by
    decide
  have hids : circularRules.map (·.id) = List.range' 3 circularRules.length := by decide
  obtain ⟨hruns, -, hexact⟩ := nullable_exact hids (by decide)
  rw [hmarks] at hruns hexact
  exact ⟨(hruns _).mpr rfl, (hexact 0 _ rfl).mp rfl, fun h => absurd ((hexact 4 _ rfl).mpr h) nofun⟩

end Exact
end GrammarKit.Compile
