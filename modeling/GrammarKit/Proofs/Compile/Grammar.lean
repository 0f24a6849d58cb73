import GrammarKit.Compile.Grammar
import GrammarKit.Proofs.Compile.Ending
import GrammarKit.Proofs.Compile.VariantRules

/-!
# What a compiled grammar is made of

`compile_made`: a grammar that was compiled consists of the rules of the variants
and the rules of the lists (`Parts`), each with its starting and ending tokens.
The parts fit together (`Parts.Good`, `compile_ok`), their steps have few forms
(`Parts.StepForm`), and there are no loose ends: every id in a step is that of a rule,
and every step has alternatives (`Good.linked`, `Good.sources_ne`).

The results about token sets are stated here for compiled grammars:

* `mem_starting_iff`: the starting tokens of a rule are the tokens in front of
  the forms that the rule derives;
* `mem_ending_iff`: the ending tokens of a rule are the end of the stream and
  the tokens right after the rule in the forms that some rule derives.
-/
namespace GrammarKit.Compile

/-- What compilation puts together. -/
structure Parts where
  numbering : Numbering
  declared : List Rule
  lists : ListRules

namespace Parts

variable (p : Parts) (tokens : TokenTable) (d : Declaration)

/-- What the variants are compiled against. -/
def context : Context := ⟨tokens, tokens.substitutes, d.kinds, p.numbering.ranks⟩

/-- The rules, before they know their tokens. -/
def rules : List Rule := p.declared ++ p.lists.rules

/-- Variants, their rules and the list rules fit together. -/
structure Good : Prop where
  numbered : p.numbering.Lists 0 tokens.size .empty d.rules
  implements : (p.context tokens d).Implements d.rules tokens.size p.lists p.numbering.variants
    p.declared
  sound : p.lists.Sound (p.context tokens d) (tokens.size + p.numbering.variants.length)

end Parts

/-- The rule at place `i` with its token sets. -/
def settledRule (first : RuleId) (eos : TokenId) (rules : List Rule) (i : Nat) (r : Rule) : Rule :=
  let starting := (startingSets (nullable first rules) first rules).1
  let ending := (endingSets (nullable first rules) first eos starting rules).1
  { r with starting := starting.getD i [], ending := ending.getD i [] }

section SettledRule

variable (first : RuleId) (eos : TokenId) (rules : List Rule) (i : Nat) (r : Rule)

@[simp] theorem settledRule_id : (settledRule first eos rules i r).id = r.id := by
  simp only [settledRule]

@[simp] theorem settledRule_ranked : (settledRule first eos rules i r).ranked = r.ranked := by
  simp only [settledRule]

@[simp] theorem settledRule_origin : (settledRule first eos rules i r).origin = r.origin := by
  simp only [settledRule]

@[simp] theorem settledRule_steps : (settledRule first eos rules i r).steps = r.steps := by
  simp only [settledRule]

@[simp] theorem settledRule_args : (settledRule first eos rules i r).args = r.args := by
  simp only [settledRule]

theorem settledRule_starting : (settledRule first eos rules i r).starting =
    (startingSets (nullable first rules) first rules).1.getD i [] := by
  simp only [settledRule]

theorem settledRule_ending : (settledRule first eos rules i r).ending =
    (endingSets (nullable first rules) first eos
      (startingSets (nullable first rules) first rules).1 rules).1.getD i [] := by
  simp only [settledRule]

end SettledRule

/-- The rules with their token sets. -/
def settledRules (first : RuleId) (eos : TokenId) (rules : List Rule) : List Rule :=
  rules.zipIdx.map fun (r, i) => settledRule first eos rules i r

theorem withTokenSets_outcome (first : RuleId) (eos : TokenId) (rules : List Rule) :
    (withTokenSets first eos rules).outcome = .ok (settledRules first eos rules) := rfl

/-- How compilation comes by the parts. -/
structure Parts.Made (p : Parts) (options : Options) (tokens : TokenTable) (d : Declaration) :
    Prop where
  numbering_eq : (numberAll d tokens.size options.maxOptionals).outcome = .ok p.numbering
  rules_eq : ((p.context tokens d).rules d.rules tokens.size
    (.startingAt (tokens.size + p.numbering.variants.length)) p.numbering.variants).outcome =
      .ok (p.declared, p.lists)

namespace Parts.Made

variable {p : Parts} {options : Options} {tokens : TokenTable} {d : Declaration}
  (hp : p.Made options tokens d)
include hp

theorem numbered : p.numbering.Lists 0 tokens.size .empty d.rules :=
  numberFrom_lists RankIndex.valid_empty hp.numbering_eq

theorem exists_decl : ∀ v ∈ p.numbering.variants, ∃ r, d.rules[v.decl]? = some r :=
  hp.numbered.exists_decl

theorem good : p.Good tokens d := by
  obtain ⟨hgrow, himpl⟩ :=
    Context.rules_spec (ListRules.sound_startingAt _ _) hp.exists_decl hp.rules_eq
  exact ⟨hp.numbered, himpl, hgrow.sound⟩

end Parts.Made

/-- Numbering comes first, then the rules of the variants, then the token sets. -/
theorem compile_made {options : Options} {tokens : TokenTable} {d : Declaration} {start : String}
    {g : Grammar} (h : (compile options tokens d start).outcome = .ok g) :
    ∃ p : Parts, p.Made options tokens d ∧ tokens.role? .endOfStream = some g.endOfStream ∧
      d.kinds.get? start = some g.start ∧
      p.numbering.ranks.rulesOfKind? g.start none = some g.initial ∧
      g = ⟨tokens, d.kinds, g.start, g.endOfStream, p.numbering.ranks,
        settledRules tokens.size g.endOfStream p.rules, tokens.substitutes, g.initial⟩ := by
  unfold compile at h
  obtain ⟨eos, heos, h⟩ := Journaled.bind_ok_iff.mp h
  obtain ⟨kind, hkind, h⟩ := Journaled.bind_ok_iff.mp h
  obtain ⟨numbering, hnumbering, h⟩ := Journaled.bind_ok_iff.mp h
  obtain ⟨⟨declared, lists⟩, hrules, h⟩ := Journaled.bind_ok_iff.mp h
  obtain ⟨_, -, h⟩ := Journaled.bind_ok_iff.mp h
  obtain ⟨initial, hinitial, h⟩ := Journaled.bind_ok_iff.mp h
  obtain ⟨rules, hsets, h⟩ := Journaled.bind_ok_iff.mp h
  rw [withTokenSets_outcome] at hsets
  cases hsets
  cases h
  exact ⟨⟨numbering, declared, lists⟩, ⟨hnumbering, hrules⟩, Journaled.require_ok_iff.mp heos,
    Journaled.require_ok_iff.mp hkind, Journaled.require_ok_iff.mp hinitial, rfl⟩

/-- The parts of a compiled grammar fit together. -/
theorem compile_ok {options : Options} {tokens : TokenTable} {d : Declaration} {start : String}
    {g : Grammar} (h : (compile options tokens d start).outcome = .ok g) :
    ∃ p : Parts, p.Good tokens d ∧ g.ranks = p.numbering.ranks ∧
      g.rules = settledRules tokens.size g.endOfStream p.rules := by
  obtain ⟨p, hp, -, -, -, hg⟩ := compile_made h
  exact ⟨p, hp.good, congrArg Grammar.ranks hg, congrArg Grammar.rules hg⟩

/-! ## No loose ends -/

/-- The steps that compilation makes: for a terminal, for a kind, for a list by its pair
of rules, and for a list by one rule. -/
inductive Parts.StepForm (p : Parts) (tokens : TokenTable) (d : Declaration) : Step → Prop where
  | terminal {ts : List TokenId} : ts ≠ [] →
      StepForm p tokens d (.terminal (withDescendants ts tokens.substitutes))
  | kind {k : Kind} {cap : Option Nat} {rs : List RuleId} :
      p.numbering.ranks.rulesOfKind? k cap = some rs → rs ≠ [] →
      StepForm p tokens d (.nonTerminal rs)
  | pair {key : ListKey} {last more : RuleId} : p.lists.pairs.get? key = some (last, more) →
      StepForm p tokens d (.nonTerminal [last, more])
  | single {id : RuleId} {steps : List Step} : p.lists.Has id steps →
      StepForm p tokens d (.nonTerminal [id])

/-- The step has alternatives; those that are rules have ids in the range. -/
structure Within (first bound : RuleId) (s : Step) : Prop where
  ne : s.sources ≠ []
  bounds : ∀ rs, s = .nonTerminal rs → ∀ q ∈ rs, first ≤ q ∧ q < bound

theorem within_nonTerminal {first bound : RuleId} {rs : List RuleId} (hne : rs ≠ [])
    (h : ∀ q ∈ rs, first ≤ q ∧ q < bound) : Within first bound (.nonTerminal rs) := by
  refine ⟨hne, ?_⟩
  intro rs' heq
  cases heq
  exact h

theorem within_terminal {first bound : RuleId} {ts : List TokenId} (hne : ts ≠ []) :
    Within first bound (.terminal ts) :=
  ⟨hne, fun _ heq => by cases heq⟩

namespace Parts.Good

variable {p : Parts} {tokens : TokenTable} {d : Declaration} (hp : p.Good tokens d)
include hp

theorem length_declared : p.declared.length = p.numbering.variants.length :=
  hp.implements.length_eq

/-- Every rule has the id of its place. -/
theorem id_eq {i : Nat} {r : Rule} (hr : p.rules[i]? = some r) : r.id = tokens.size + i := by
  unfold rules at hr
  have hlen := hp.length_declared
  rcases Nat.lt_or_ge i p.declared.length with hi | hi
  · rw [List.getElem?_append_left hi] at hr
    have hv := List.getElem?_eq_getElem (hlen ▸ hi)
    obtain ⟨d', r', -, hr', hid, -⟩ := hp.implements.rule_of_variant i _ hv
    rw [hr] at hr'
    cases hr'
    exact hid
  · rw [List.getElem?_append_right hi] at hr
    have := hp.sound.id_eq _ _ hr
    grind

/-! ### Forms of steps -/

theorem stepForm_of_lowers {shape : Shape Kind} {st : Step}
    (h : Lowers (p.context tokens d) p.lists shape st) : p.StepForm tokens d st := by
  cases h with
  | terminal hne => exact .terminal hne
  | nonTerminal hrs hne => exact .kind hrs hne
  | list hl hst =>
    cases hst with
    | any hpair _ => exact .pair hpair
    | two hpair _ =>
      obtain ⟨l', -, -, -, hmore⟩ := hp.sound.paired _ _ _ hpair
      exact .single hmore
    | many _ _ hhas => exact .single hhas

theorem stepForm_of_lowersAll {kept : Nat} {ps : List (Param Kind)} {sts : List Step}
    (h : LowersAll (p.context tokens d) p.lists kept ps sts) :
    ∀ s ∈ sts, p.StepForm tokens d s := by
  induction h with
  | nil => simp
  | required _ hl _ ih => exact List.forall_mem_cons.mpr ⟨hp.stepForm_of_lowers hl, ih⟩
  | present _ _ hl _ ih => exact List.forall_mem_cons.mpr ⟨hp.stepForm_of_lowers hl, ih⟩
  | omitted _ _ _ ih => exact ih

omit hp in
/-- The steps of one element, and of the delimiter after it. -/
theorem stepForm_itemSteps {l : ListPlan} (hl : l.Fits (p.context tokens d)) :
    ∀ s ∈ l.itemSteps, p.StepForm tokens d s := by
  refine List.forall_mem_cons.mpr ⟨.kind hl.items_eq hl.items_ne, ?_⟩
  intro s hs
  rw [ListPlan.delimiterSteps, hl.delimiter_eq] at hs
  cases hd : l.key.delimiter with
  | none => simp [hd] at hs
  | some δ =>
    have hs : s = .terminal (withDescendants [δ.token] tokens.substitutes) := by
      simpa [hd, context] using hs
    rw [hs]
    exact .terminal (List.cons_ne_nil _ _)

/-- Every step of a rule has one of the forms. -/
theorem stepForm {r : Rule} (hr : r ∈ p.rules) : ∀ s ∈ r.steps, p.StepForm tokens d s := by
  rcases List.mem_append.mp hr with hr | hr
  · obtain ⟨j, hj⟩ := List.getElem?_of_mem hr
    obtain ⟨hlt, -⟩ := List.getElem?_eq_some_iff.mp hj
    have hv := List.getElem?_eq_getElem (hp.length_declared ▸ hlt)
    obtain ⟨d', r', -, hr', -, hall⟩ := hp.implements.rule_of_variant j _ hv
    rw [hj] at hr'
    cases hr'
    exact hp.stepForm_of_lowersAll hall
  · obtain ⟨l, last, more, hl, hpair, hn⟩ := hp.sound.made r hr
    exact hn.forall_mem (stepForm_itemSteps hl) (.pair hpair)

/-! ### Alternatives of steps -/

/-- The rules of a kind that the index lists are those of its variants. -/
theorem exists_variant {k : Kind} {cap : Option Nat} {q : RuleId}
    (hq : q ∈ (p.numbering.ranks.rulesOfKind? k cap).getD []) :
    ∃ j v r, p.numbering.variants[j]? = some v ∧ q = tokens.size + j ∧
      d.rules[v.decl]? = some r ∧ r.produces = k ∧ ∀ c ∈ cap, r.rank ≤ c := by
  obtain ⟨rank, hcap, hat⟩ := (RankIndex.mem_rulesOfKind_iff hp.numbered.valid).mp hq
  rcases (hp.numbered.mem_rulesAt _ _).mp hat with h | ⟨j, v, i, r, hj, hid, hr, hd, hrank⟩
  · exact absurd h List.not_mem_nil
  · rw [Nat.zero_add] at hd
    cases hrank
    exact ⟨j, v, r, hj, hid, by rw [hd]; exact hr, rfl, hcap⟩

theorem exists_variant_of_rulesOfKind {k : Kind} {cap : Option Nat} {rs : List RuleId}
    (hrs : p.numbering.ranks.rulesOfKind? k cap = some rs) {q : RuleId} (hq : q ∈ rs) :
    ∃ j < p.declared.length, q = tokens.size + j := by
  obtain ⟨j, v, r, hj, hid, -⟩ := hp.exists_variant ((RankIndex.mem_getD_iff hrs).mpr hq)
  obtain ⟨hlt, -⟩ := List.getElem?_eq_some_iff.mp hj
  exact ⟨j, by rw [hp.length_declared]; exact hlt, hid⟩

theorem bounds_of_rulesOfKind {k : Kind} {cap : Option Nat} {rs : List RuleId}
    (hrs : p.numbering.ranks.rulesOfKind? k cap = some rs) {q : RuleId} (hq : q ∈ rs) :
    tokens.size ≤ q ∧ q < tokens.size + p.rules.length := by
  obtain ⟨j, hj, rfl⟩ := hp.exists_variant_of_rulesOfKind hrs hq
  rw [rules, List.length_append]
  grind

theorem bounds_of_has {id : RuleId} {steps : List Step} (h : p.lists.Has id steps) :
    tokens.size ≤ id ∧ id < tokens.size + p.rules.length := by
  obtain ⟨r, hr, rfl, -⟩ := h
  obtain ⟨i, hi⟩ := List.getElem?_of_mem (List.mem_append_right p.declared hr)
  have := hp.id_eq hi
  obtain ⟨hlt, -⟩ := List.getElem?_eq_some_iff.mp hi
  have hlt : i < p.rules.length := hlt
  grind

theorem bounds_of_pair {key : ListKey} {last more : RuleId}
    (h : p.lists.pairs.get? key = some (last, more)) :
    ∀ q ∈ [last, more], tokens.size ≤ q ∧ q < tokens.size + p.rules.length := by
  obtain ⟨l', -, -, hlast, hmore⟩ := hp.sound.paired _ _ _ h
  intro q hq
  rcases List.mem_cons.mp hq with rfl | hq
  · exact hp.bounds_of_has hlast
  · rw [List.mem_singleton.mp hq]
    exact hp.bounds_of_has hmore

theorem within {r : Rule} (hr : r ∈ p.rules) :
    ∀ s ∈ r.steps, Within tokens.size (tokens.size + p.rules.length) s := by
  intro s hs
  cases hp.stepForm hr s hs with
  | terminal hne =>
    refine within_terminal ?_
    obtain ⟨t, ht⟩ := List.exists_mem_of_ne_nil _ hne
    exact List.ne_nil_of_mem (mem_withDescendants_iff.mpr ⟨t, ht, .refl⟩)
  | kind hrs hne => exact within_nonTerminal hne fun q hq => hp.bounds_of_rulesOfKind hrs hq
  | pair hpair => exact within_nonTerminal (by simp) (hp.bounds_of_pair hpair)
  | single hhas =>
    refine within_nonTerminal (by simp) fun q hq => ?_
    rw [List.mem_singleton.mp hq]
    exact hp.bounds_of_has hhas

theorem linked : Linked tokens.size p.rules :=
  ⟨fun _ _ hr => hp.id_eq hr, fun _ hr rs hs q hq => (hp.within hr _ hs).bounds rs rfl q hq⟩

theorem sources_ne : ∀ r ∈ p.rules, ∀ s ∈ r.steps, s.sources ≠ [] :=
  fun _ hr s hs => (hp.within hr s hs).ne

end Parts.Good

/-! ## Token sets of compiled grammars -/

theorem length_settledRules (first : RuleId) (eos : TokenId) (rules : List Rule) :
    (settledRules first eos rules).length = rules.length := by
  rw [settledRules, List.length_map, List.length_zipIdx]

theorem getElem?_settledRules (first : RuleId) (eos : TokenId) (rules : List Rule) (i : Nat) :
    (settledRules first eos rules)[i]? = rules[i]?.map (settledRule first eos rules i) := by
  rw [settledRules, List.getElem?_map, List.getElem?_zipIdx, Option.map_map, Nat.zero_add]
  rfl

theorem exists_of_getElem?_settledRules {first : RuleId} {eos : TokenId} {rules : List Rule}
    {i : Nat} {r : Rule} (hr : (settledRules first eos rules)[i]? = some r) :
    ∃ r', rules[i]? = some r' ∧ r = settledRule first eos rules i r' := by
  rw [getElem?_settledRules] at hr
  obtain ⟨r', hr', rfl⟩ := Option.map_eq_some_iff.mp hr
  exact ⟨r', hr', rfl⟩

theorem mem_settledRules_iff {first : RuleId} {eos : TokenId} {rules : List Rule} {r : Rule} :
    r ∈ settledRules first eos rules ↔
      ∃ i r', rules[i]? = some r' ∧ r = settledRule first eos rules i r' := by
  simp only [settledRules, List.mem_map, Prod.exists, List.mem_zipIdx_iff_getElem?]
  constructor
  · intro h
    obtain ⟨r', i, hr', rfl⟩ := h
    exact ⟨i, r', hr', rfl⟩
  · intro h
    obtain ⟨i, r', hr', rfl⟩ := h
    exact ⟨r', i, hr', rfl⟩

theorem exists_mem_settledRules (first : RuleId) (eos : TokenId) {rules : List Rule} {r : Rule}
    (hr : r ∈ rules) : ∃ r' ∈ settledRules first eos rules, r'.id = r.id ∧ r'.steps = r.steps := by
  obtain ⟨i, hi⟩ := List.getElem?_of_mem hr
  exact ⟨settledRule first eos rules i r, mem_settledRules_iff.mpr ⟨i, r, hi, rfl⟩,
    settledRule_id .., settledRule_steps ..⟩

theorem exists_mem_of_mem_settledRules {first : RuleId} {eos : TokenId} {rules : List Rule}
    {r : Rule} (hr : r ∈ settledRules first eos rules) :
    ∃ r' ∈ rules, r'.id = r.id ∧ r'.steps = r.steps := by
  obtain ⟨i, r', hr', rfl⟩ := mem_settledRules_iff.mp hr
  exact ⟨r', List.mem_of_getElem? hr', (settledRule_id ..).symm, (settledRule_steps ..).symm⟩

/-- Token sets do not matter to derivations. -/
theorem derives_settledRules_iff {first : RuleId} {eos : TokenId} {rules : List Rule}
    {α β : Form} : Derives (settledRules first eos rules) α β ↔ Derives rules α β :=
  ⟨derives_mono fun _ hr => exists_mem_of_mem_settledRules hr,
    derives_mono fun _ hr => exists_mem_settledRules first eos hr⟩

theorem comesAfter_settledRules_iff {first : RuleId} {eos : TokenId} {rules : List Rule}
    {q : RuleId} {t : TokenId} :
    ComesAfter (settledRules first eos rules) q t ↔ ComesAfter rules q t := by
  constructor
  · intro h
    obtain ⟨r, hr, before, after, hd⟩ := h
    obtain ⟨r', hr', hid, -⟩ := exists_mem_of_mem_settledRules hr
    exact ⟨r', hr', before, after, by rw [hid]; exact derives_settledRules_iff.mp hd⟩
  · intro h
    obtain ⟨r, hr, before, after, hd⟩ := h
    obtain ⟨r', hr', hid, -⟩ := exists_mem_settledRules first eos hr
    exact ⟨r', hr', before, after, by rw [hid]; exact derives_settledRules_iff.mpr hd⟩

section Below

variable {first : RuleId} {eos bound t : TokenId} {rules : List Rule} {i : Nat}

/-- A starting token stands in front of a form, so some step has brought it there. -/
theorem lt_of_mem_startingSets (hl : Linked first rules)
    (hne : ∀ r ∈ rules, ∀ s ∈ r.steps, s.sources ≠ [])
    (hbelow : ∀ r ∈ rules, ∀ s ∈ r.steps, s.TokensBelow bound)
    (hi : i < rules.length)
    (ht : t ∈ (startingSets (nullable first rules) first rules).1.getD i []) : t < bound := by
  rw [← Nat.add_sub_cancel_left first i] at ht
  obtain ⟨rest, hd⟩ := (mem_startingSets_iff hl hne (Nat.le_add_right _ i)
    (Nat.add_lt_add_left hi _)).mp ht
  exact token_lt_of_derives hbelow hd List.mem_cons_self

theorem lt_of_mem_endingSets (hl : Linked first rules)
    (hne : ∀ r ∈ rules, ∀ s ∈ r.steps, s.sources ≠ [])
    (hbelow : ∀ r ∈ rules, ∀ s ∈ r.steps, s.TokensBelow bound)
    (heos : eos < bound) (hi : i < rules.length)
    (ht : t ∈ (endingSets (nullable first rules) first eos
      (startingSets (nullable first rules) first rules).1 rules).1.getD i []) : t < bound := by
  rw [← Nat.add_sub_cancel_left first i] at ht
  rcases (mem_endingSets_iff hl hne (Nat.le_add_right _ i) (Nat.add_lt_add_left hi _)).mp ht with
    rfl | ⟨r, -, before, after, hd⟩
  · exact heos
  · refine token_lt_of_derives hbelow hd (List.mem_append_right before ?_)
    exact List.mem_cons_of_mem _ List.mem_cons_self

end Below

/-- A grammar of enumerations: words between commas. -/
def enumeration : Declaration where
  kinds := ⟨["enumeration", "item"]⟩
  rules := [⟨"enumeration", 0, 0, [⟨"items", .list 1 none 1 (some (.separator 2))⟩]⟩,
    ⟨"item", 1, 0, [⟨"word", .terminal [1] false⟩]⟩]

def enumerationTokens : TokenTable where
  tokens := [(TokenDecl.named "end").playing .endOfStream, .withLiterals (.named "word") ["w"],
    .withLiterals (.named "comma") [","]]
  roles := { Roles.none with endOfStream := some 0 }

/-- The grammar of enumerations, compiled. -/
def enumerationGrammar : Grammar where
  tokens := enumerationTokens
  kinds := enumeration.kinds
  start := 0
  endOfStream := 0
  ranks := ⟨[(0, 0), (1, 0)], [(⟨0, 0⟩, [3]), (⟨1, 0⟩, [4])]⟩
  rules := [⟨3, ⟨0, 0⟩, .declared "enumeration" 0, [.nonTerminal [5, 6]], [true], [1], [0]⟩,
    ⟨4, ⟨1, 0⟩, .declared "item" 1, [.terminal [1]], [true], [1], [0, 2]⟩,
    ⟨5, ⟨1, 0⟩, .listLast, [.nonTerminal [4]], [], [1], [0]⟩,
    ⟨6, ⟨1, 0⟩, .listMore, [.nonTerminal [4], .terminal [2], .nonTerminal [5, 6]], [], [1], [0]⟩]
  substitutes := []
  initial := [3]

theorem compile_enumeration :
    (compile .default enumerationTokens enumeration "enumeration").outcome =
      .ok enumerationGrammar := by
  cbv

section Sets

variable {options : Options} {tokens : TokenTable} {d : Declaration} {start : String} {g : Grammar}

/-- **Starting tokens.** In a compiled grammar, the starting tokens of a rule are
the tokens in front of the forms that it derives, so in front of its words. -/
theorem mem_starting_iff (h : (compile options tokens d start).outcome = .ok g) {r : Rule}
    (hr : r ∈ g.rules) (t : TokenId) :
    (t ∈ r.starting ↔ ∃ rest, Derives g.rules [.rule r.id] (.token t :: rest)) ∧
      ∀ w, Words g.rules r.id (t :: w) → t ∈ r.starting := by
  obtain ⟨p, hp, -, hrules⟩ := compile_ok h
  have hfirst : t ∈ r.starting ↔ ∃ rest, Derives g.rules [.rule r.id] (.token t :: rest) := by
    rw [hrules] at hr ⊢
    simp only [derives_settledRules_iff]
    obtain ⟨i, r', hr', rfl⟩ := mem_settledRules_iff.mp hr
    have hmem := List.mem_of_getElem? hr'
    obtain ⟨hlow, hhigh⟩ := hp.linked.bounds_of_mem hmem
    have hplace : r'.id - tokens.size = i := by have := hp.id_eq hr'; grind
    have hset := mem_startingSets_iff hp.linked hp.sources_ne (t := t) hlow hhigh
    rw [hplace] at hset
    exact hset
  exact ⟨hfirst, fun w hw => hfirst.mpr ⟨w.map .token, hw⟩⟩

/-- A word can start an enumeration, a comma cannot. -/
theorem starting_of_enumeration :
    (∃ rest, Derives enumerationGrammar.rules [.rule 3] (.token 1 :: rest)) ∧
      ¬ ∃ rest, Derives enumerationGrammar.rules [.rule 3] (.token 2 :: rest) := by
  have hall : ⟨3, ⟨0, 0⟩, .declared "enumeration" 0, [.nonTerminal [5, 6]], [true], [1], [0]⟩ ∈
      enumerationGrammar.rules := by decide
  have hword := (mem_starting_iff compile_enumeration hall 1).1.mp (by decide)
  have hcomma := mt (mem_starting_iff compile_enumeration hall 2).1.mpr (by decide)
  exact ⟨hword, hcomma⟩

/-- **Ending tokens.** In a compiled grammar, the ending tokens of a rule are the
end of the stream and the tokens that come right after the rule in a form that
some rule derives. -/
theorem mem_ending_iff (h : (compile options tokens d start).outcome = .ok g) {r : Rule}
    (hr : r ∈ g.rules) (t : TokenId) :
    t ∈ r.ending ↔ t = g.endOfStream ∨ ComesAfter g.rules r.id t := by
  obtain ⟨p, hp, -, hrules⟩ := compile_ok h
  rw [hrules] at hr ⊢
  rw [comesAfter_settledRules_iff]
  obtain ⟨i, r', hr', rfl⟩ := mem_settledRules_iff.mp hr
  have hmem := List.mem_of_getElem? hr'
  obtain ⟨hlow, hhigh⟩ := hp.linked.bounds_of_mem hmem
  have hplace : r'.id - tokens.size = i := by have := hp.id_eq hr'; grind
  have hset := (mem_endingSets_iff hp.linked hp.sources_ne hlow hhigh :
    _ ↔ t = g.endOfStream ∨ ComesAfter p.rules r'.id t)
  rw [hplace] at hset
  exact hset

/-- In an enumeration, a comma can follow an item but not the enumeration. -/
theorem ending_of_enumeration : ComesAfter enumerationGrammar.rules 4 2 ∧
    ¬ ComesAfter enumerationGrammar.rules 3 2 := by
  have hitem : ⟨4, ⟨1, 0⟩, .declared "item" 1, [.terminal [1]], [true], [1], [0, 2]⟩ ∈
      enumerationGrammar.rules := by decide
  have hall : ⟨3, ⟨0, 0⟩, .declared "enumeration" 0, [.nonTerminal [5, 6]], [true], [1], [0]⟩ ∈
      enumerationGrammar.rules := by decide
  have hitem2 := (mem_ending_iff compile_enumeration hitem 2).mp (by decide)
  have hall2 := mt (mem_ending_iff compile_enumeration hall 2).mpr (by decide)
  exact ⟨hitem2.resolve_left (by decide), fun h => hall2 (Or.inr h)⟩

end Sets

end GrammarKit.Compile
