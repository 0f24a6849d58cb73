import GrammarKit.Grammar.Listing
import GrammarKit.Proofs.Fault
import GrammarKit.Proofs.Grammar.Blob

/-!
# What can be asked of a grammar from a blob

Reading a blob promises exactly that the grammar hangs together
(`exists_ofBlob_iff`): rule ids are dense, steps name tokens and rules that there
are, the end of the stream is a token. So names of tokens and rules are found in
every step. Kinds are another matter: the listing of a rule exists exactly if the
kinds that it writes do (`succeeds_ruleListing_iff`), and that of a grammar
exactly if the kinds of all rules do (`succeeds_listing_iff`).
-/
namespace GrammarKit.Grammar

variable {g : Grammar}

/-- A blob spells exactly the grammars that it has room for and that hang
together. -/
theorem exists_ofBlob_iff : (∃ bytes, ofBlob bytes = .ok g) ↔
    g.Storable ∧ (∀ i r, g.rules[i]? = some r → Placed (g.tokenCount + i) g.entityCount r) ∧
      g.endOfStream < g.tokenCount := by
  rw [← inconsistency?_eq_none_iff]
  constructor
  · rintro ⟨bytes, h⟩
    exact storable_of_ofBlob h
  · rintro ⟨hg, hok⟩
    exact ⟨g.toBlob, ofBlob_toBlob hg hok⟩

/-! ## Rules and their names -/

/-- The kind of the rule has a name. -/
def Named (g : Grammar) (r : Rule) : Prop := g.kinds.contains r.ranked.kind = true

theorem named_iff {r : Rule} : g.Named r ↔ (g.kinds.name? r.ranked.kind).isSome = true := by
  unfold Named KindTable.contains KindTable.name?
  simp

theorem isSome_rule?_iff {id : Nat} : (g.rule? id).isSome = true ↔ g.isRule id = true := by
  have hsub (h : ¬ id < g.tokens.size) :
      id - g.tokens.size < g.rules.length ↔ id < g.tokens.size + g.rules.length := by omega
  unfold rule? isRule isToken entityCount tokenCount
  by_cases hid : id < g.tokens.size
  · simp [hid]
  · simp [hid, hsub hid]

/-- A rule is found exactly if the id is one of a rule. -/
theorem succeeds_rule_iff {id : Nat} : Succeeds (g.rule id) ↔ g.isRule id = true := by
  unfold rule
  rw [succeeds_require_iff, isSome_rule?_iff]

theorem rule_eq_ok_iff {id : RuleId} {r : Rule} : g.rule id = .ok r ↔ g.rule? id = some r := by
  unfold rule
  cases g.rule? id <;> simp [require]

theorem rule?_add (i : Nat) : g.rule? (g.tokenCount + i) = g.rules[i]? := by
  unfold rule?
  rw [if_neg (Nat.not_lt.mpr (Nat.le_add_right _ _)), Nat.add_sub_cancel_left]

theorem mem_rules_of_rule? {id : RuleId} {r : Rule} (h : g.rule? id = some r) : r ∈ g.rules := by
  unfold rule? at h
  split at h
  · cases h
  · exact List.mem_of_getElem? h

/-! ## Listings -/

/-- The rule is listed by its kind: it is one of a list. -/
def GoesByKind (r : Rule) : Prop := r.origin.action? = none

/-- An entity is named in a listing if it is a token, or a rule that has an
action or a kind with a name. -/
theorem succeeds_label_iff {id : Nat} (hid : id < g.entityCount) :
    Succeeds (g.label id) ↔ ∀ r, g.rule? id = some r → GoesByKind r → g.Named r := by
  unfold label
  by_cases htoken : g.isToken id = true
  · have hlt : id < g.tokens.tokens.length := of_decide_eq_true htoken
    have hname : (g.tokens.get? id).isSome = true := by simp [TokenTable.get?, hlt]
    have hrule : g.rule? id = none := if_pos hlt
    rw [if_pos htoken, succeeds_map_iff, TokenTable.name, succeeds_require_iff, Option.isSome_map,
      hname, hrule]
    simp
  · have hrule : g.isRule id = true := by simp [isRule, htoken, hid]
    obtain ⟨r, hr⟩ := Option.isSome_iff_exists.mp (isSome_rule?_iff.mpr hrule)
    rw [if_neg htoken, succeeds_bind_iff]
    simp only [rule_eq_ok_iff, hr, Option.some.injEq, exists_eq_left', forall_eq', GoesByKind]
    cases haction : r.origin.action? with
    | some action => simp
    | none => simp [named_iff]

/-- A step is listed if all its alternatives have names. -/
theorem succeeds_stepListing_iff {s : Step} :
    Succeeds (g.stepListing s) ↔ ∀ e ∈ s.sources, Succeeds (g.label e) := by
  cases s with
  | terminal tokens =>
    unfold stepListing
    rw [succeeds_bind_iff, ← succeeds_mapM_iff]
    simp [Succeeds, Step.sources]
  | nonTerminal rules =>
    have hlabels : Succeeds (rules.mapM fun r => (g.label r).map fun name => s!"{name}[{r}]") ↔
        ∀ r ∈ rules, Succeeds (g.label r) := by
      rw [succeeds_mapM_iff]
      simp only [succeeds_map_iff]
    unfold stepListing
    rw [succeeds_bind_iff, Step.sources, ← hlabels]
    constructor
    · rintro ⟨names, hnames, -⟩
      exact ⟨names, hnames⟩
    · rintro ⟨names, hnames⟩
      refine ⟨names, hnames, ?_⟩
      split <;> exact succeeds_ok _

/-- Every rule that the step names by its kind has a kind with a name. -/
def NamesSources (g : Grammar) (s : Step) : Prop :=
  ∀ e ∈ s.sources, ∀ r, g.rule? e = some r → GoesByKind r → g.Named r

/-- The line of a rule exists exactly if its kind has a name, and so have the
kinds of the list rules that it refers to. -/
theorem succeeds_ruleListing_iff {i : Nat} {r : Rule} (hr : g.rules[i]? = some r)
    (hplaced : Placed (g.tokenCount + i) g.entityCount r) :
    Succeeds (g.ruleListing (g.tokenCount + i)) ↔
      g.Named r ∧ ∀ s ∈ r.steps, g.NamesSources s := by
  have hsteps : Succeeds (r.steps.mapM g.stepListing) ↔ ∀ s ∈ r.steps, g.NamesSources s := by
    rw [succeeds_mapM_iff]
    refine forall₂_congr fun s hs => ?_
    rw [succeeds_stepListing_iff]
    exact forall₂_congr fun e he => succeeds_label_iff (hplaced.sources_lt s hs e he)
  have hrule : g.rule (g.tokenCount + i) = .ok r := by
    rw [rule_eq_ok_iff, rule?_add, hr]
  unfold ruleListing
  simp only [succeeds_bind_iff, hrule, Except.ok.injEq, exists_eq_left', succeeds_ok, and_true]
  rw [named_iff, ← hsteps, ← succeeds_require_iff]
  exact exists_and_right

/-- The listing of a grammar exists exactly if the kinds of all rules have
names. -/
theorem succeeds_listing_iff
    (hplaced : ∀ i r, g.rules[i]? = some r → Placed (g.tokenCount + i) g.entityCount r) :
    Succeeds g.listing ↔ ∀ r ∈ g.rules, g.Named r := by
  have hlines : Succeeds g.listing ↔
      ∀ i < g.rules.length, Succeeds (g.ruleListing (g.tokenCount + i)) := by
    unfold listing
    rw [succeeds_bind_iff]
    simp only [← List.mem_range]
    rw [← succeeds_mapM_iff]
    simp [Succeeds]
  rw [hlines]
  constructor
  · intro h r hr
    obtain ⟨i, hi, rfl⟩ := List.mem_iff_getElem.mp hr
    have hget := List.getElem?_eq_getElem hi
    exact ((succeeds_ruleListing_iff hget (hplaced i _ hget)).mp (h i hi)).1
  · intro h i hi
    have hget := List.getElem?_eq_getElem hi
    rw [succeeds_ruleListing_iff hget (hplaced i _ hget)]
    exact ⟨h _ (List.getElem_mem hi), fun s _ e _ r hr _ => h r (mem_rules_of_rule? hr)⟩

/-! ## Grammars from blobs -/

/-- **What a blob promises.** A blob spells exactly the storable grammars that hang
together. Such a grammar has a listing exactly if the kinds of all its rules
have names, and a line for a rule exactly if the kinds in this line have. The
rules that a parse begins with are found exactly if they are rules. -/
theorem answers_of_ofBlob {bytes : List UInt8} (h : ofBlob bytes = .ok g) :
    (∀ g', (∃ bytes', ofBlob bytes' = .ok g') ↔
      g'.Storable ∧
        (∀ i r, g'.rules[i]? = some r → Placed (g'.tokenCount + i) g'.entityCount r) ∧
        g'.endOfStream < g'.tokenCount) ∧
    (Succeeds g.listing ↔ ∀ r ∈ g.rules, g.Named r) ∧
    (∀ i r, g.rules[i]? = some r → (Succeeds (g.ruleListing (g.tokenCount + i)) ↔
      g.Named r ∧ ∀ s ∈ r.steps, g.NamesSources s)) ∧
    ((∀ id ∈ g.initial, Succeeds (g.rule id)) ↔ ∀ id ∈ g.initial, g.isRule id = true) := by
  obtain ⟨-, hplaced, -⟩ := exists_ofBlob_iff.mp ⟨bytes, h⟩
  refine ⟨fun g' => exists_ofBlob_iff, succeeds_listing_iff hplaced, ?_, ?_⟩
  · intro i r hr
    exact succeeds_ruleListing_iff hr (hplaced i r hr)
  · exact forall₂_congr fun id _ => succeeds_rule_iff

/-- A grammar that hangs together although little of it fits: there are no kinds,
a step over rules has none, a step over tokens names a rule, and a parse begins
with a rule that does not exist. -/
def unlisted : Grammar where
  tokens := ⟨[(TokenDecl.named "End").playing .endOfStream], ⟨some 0, none, none, none, none⟩⟩
  kinds := .empty
  start := 7
  endOfStream := 0
  ranks := ⟨[(7, 0)], [(⟨7, 0⟩, [9])]⟩
  rules := [⟨1, ⟨7, 0⟩, .declared "All" 0, [.nonTerminal [], .terminal [1]], [], [], []⟩]
  substitutes := []
  initial := [9]

theorem ofBlob_toBlob_unlisted : ofBlob unlisted.toBlob = .ok unlisted := by decide +kernel

/-- A blob spells this grammar, which has no listing. -/
theorem unlisted_listing :
    ofBlob unlisted.toBlob = .ok unlisted ∧
      unlisted.listing = .error .outOfRange ∧ unlisted.ruleListing 1 = .error .outOfRange ∧
      unlisted.rule 9 = .error (.unknownRule 9 1 1) ∧ 9 ∈ unlisted.initial ∧
      9 ∈ unlisted.ranks.rulesAt ⟨7, 0⟩ ∧
      unlisted.kinds.contains unlisted.start = false ∧
      ∃ r ∈ unlisted.rules, .nonTerminal [] ∈ r.steps ∧ .terminal [1] ∈ r.steps ∧
        unlisted.isToken 1 = false :=
  ⟨ofBlob_toBlob_unlisted, rfl, rfl, rfl, by decide, by decide, rfl, _, List.mem_singleton_self _,
    by decide, by decide, rfl⟩

/-- The kind without a name is why there is no listing. -/
theorem unlisted_unnamed : ofBlob unlisted.toBlob = .ok unlisted ∧
    ¬ ∀ r ∈ unlisted.rules, unlisted.Named r := by
  obtain ⟨-, hlisting, -⟩ := answers_of_ofBlob ofBlob_toBlob_unlisted
  rw [← hlisting, show unlisted.listing = .error .outOfRange from rfl]
  exact ⟨ofBlob_toBlob_unlisted, not_succeeds_error _⟩

end GrammarKit.Grammar
