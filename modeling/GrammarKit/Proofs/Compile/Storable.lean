import GrammarKit.Proofs.Compile.Sources
import GrammarKit.Proofs.Kind
import GrammarKit.Proofs.Token.Table

/-!
# Compiled grammars fit into blobs

A declaration is storable if its own numbers are: ranks, kinds and minima are
words, strings and lists of parameters have a length. `compile_storable`: the
grammar compiled from it is storable and hangs together, as long as there are no
more tokens and rules than words to number them.

Nothing that compilation makes up is larger than what it is made from:

* the index lists as many rules as there are variants (`Filled`, `numberFrom_filled`);
* a step has no more alternatives than there are tokens or rules (`Step.Bounded`),
  and the rules for a list have at most three more steps than twice its minimum;
* token sets are ascending and within the tokens of the table.
-/
namespace GrammarKit

open Codec (Word Length Short Each length_of_le)

/-! ## Declarations -/

/-- The minimum of a list fits into a word. -/
def Shape.Storable {κ : Type} : Shape κ → Prop
  | .list _ _ min _ => Word min
  | _ => True

instance {κ : Type} : DecidablePred (Shape.Storable (κ := κ))
  | .terminal _ _ => inferInstanceAs (Decidable True)
  | .nonTerminal _ _ _ => inferInstanceAs (Decidable True)
  | .list _ _ min _ => inferInstanceAs (Decidable (Word min))

structure RuleDecl.Storable (d : RuleDecl) : Prop where
  action : Short d.action
  ranked : d.ranked.Storable
  params : Each (fun p => p.shape.Storable) d.params

instance (d : RuleDecl) : Decidable d.Storable :=
  decidable_of_iff (Short d.action ∧ d.ranked.Storable ∧ Each (fun p => p.shape.Storable) d.params)
    ⟨fun h => ⟨h.1, h.2.1, h.2.2⟩, fun h => ⟨h.action, h.ranked, h.params⟩⟩

structure Declaration.Storable (d : Declaration) : Prop where
  names : ∀ name ∈ d.kinds.names, Short name
  count : d.kinds.names.length ≤ 2 ^ 32
  rules : ∀ r ∈ d.rules, r.Storable

instance (d : Declaration) : Decidable d.Storable :=
  decidable_of_iff ((∀ name ∈ d.kinds.names, Short name) ∧ d.kinds.names.length ≤ 2 ^ 32 ∧
      ∀ r ∈ d.rules, r.Storable)
    ⟨fun h => ⟨h.1, h.2.1, h.2.2⟩, fun h => ⟨h.names, h.count, h.rules⟩⟩

/-- The alternatives of a step can be listed, and those that are tokens have ids
below `size`. -/
structure Step.Bounded (size : Nat) (s : Step) : Prop where
  length : Length s.sources.length
  tokens_lt : ∀ ts, s = .terminal ts → ∀ t ∈ ts, t < size

/-- What a rule has besides its id and its token sets is storable. -/
structure Rule.Bounded (size : Nat) (r : Rule) : Prop where
  ranked : r.ranked.Storable
  origin : r.origin.Storable
  steps : Each (Step.Bounded size) r.steps
  args : Each (fun _ => True) r.args

/-! ## The index -/

namespace RankIndex

/-- An index of `n` rules, with numbers that fit into words. -/
structure Filled (n : Nat) (x : RankIndex) : Prop where
  total_eq : x.total = n
  maxRanks_proper : x.maxRanks.Proper
  maxRanks_le : x.maxRanks.length ≤ n
  maxRanks : ∀ e ∈ x.maxRanks, Word e.1 ∧ Word e.2
  entries_proper : x.entries.Proper
  entries_le : x.entries.length ≤ n
  entries : ∀ e ∈ x.entries, e.1.Storable ∧ ∀ id ∈ e.2, Word id

variable {x : RankIndex} {n : Nat}

theorem filled_empty : Filled 0 empty where
  total_eq := rfl
  maxRanks_proper := List.nodup_nil
  maxRanks_le := Nat.le_refl 0
  maxRanks := by simp [empty]
  entries_proper := List.nodup_nil
  entries_le := Nat.le_refl 0
  entries := by simp [empty]

theorem Filled.add (hx : x.Filled n) {r : RankedType} (hr : r.Storable) {rules : List RuleId}
    (hpos : 0 < rules.length) (hrules : ∀ id ∈ rules, Word id) :
    (x.add r rules).Filled (n + rules.length) where
  total_eq := by rw [total_add, hx.total_eq]
  maxRanks_proper := Assoc.proper_alter hx.maxRanks_proper r.kind
  maxRanks_le := by
    have hle := Assoc.length_alter_le (fun top => (top.getD r.rank).max r.rank) x.maxRanks r.kind
    have := hx.maxRanks_le
    exact Nat.le_trans hle (by omega)
  maxRanks := by
    refine Assoc.forall_mem_alter hx.maxRanks hr.kind fun old hold => ?_
    cases old with
    | none => exact Nat.max_lt.mpr ⟨hr.rank, hr.rank⟩
    | some top => exact Nat.max_lt.mpr ⟨hold top rfl, hr.rank⟩
  entries_proper := Assoc.proper_alter hx.entries_proper r
  entries_le := by
    have hle := Assoc.length_alter_le (fun known => known.getD [] ++ rules) x.entries r
    have := hx.entries_le
    exact Nat.le_trans hle (by omega)
  entries := by
    refine Assoc.forall_mem_alter (Q := fun ids => ∀ id ∈ ids, Word id) hx.entries hr
      fun old hold id hid => ?_
    rcases List.mem_append.mp hid with hid | hid
    · cases old with
      | none => cases hid
      | some ids => exact hold ids rfl id hid
    · exact hrules id hid

theorem Filled.storable (hx : x.Filled n) (hn : n ≤ 2 ^ 32) : x.Storable where
  maxRanks := ⟨hx.maxRanks_proper, length_of_le (Nat.le_trans hx.maxRanks_le hn), hx.maxRanks⟩
  entries := by
    refine ⟨hx.entries_proper, length_of_le (Nat.le_trans hx.entries_le hn), fun e he => ?_⟩
    have hlen := length_le_total he
    rw [hx.total_eq] at hlen
    exact ⟨(hx.entries e he).1, length_of_le (Nat.le_trans hlen hn), (hx.entries e he).2⟩

end RankIndex

/-! ## Tokens -/

/-- A set of tokens of a table is storable. -/
theorem TokenSet.storable_of_lt {s : TokenSet} {size : Nat} (hsize : size ≤ 2 ^ 32)
    (hasc : Ascending s) (hlt : ∀ t ∈ s, t < size) : TokenSet.Storable s := by
  have hle := length_le hasc fun t ht => List.mem_range.mpr (hlt t ht)
  rw [List.length_range] at hle
  exact ⟨hasc, length_of_le (Nat.le_trans hle hsize),
    fun t ht => Nat.lt_of_lt_of_le (hlt t ht) hsize⟩

namespace TokenTable

variable {t : TokenTable}

theorem storable_ofDecls {decls : List TokenDecl} (h : ofDecls decls = .ok t)
    (hdecls : ∀ d ∈ decls, d.Storable) (hsize : t.size ≤ 2 ^ 32) : t.Storable where
  tokens := by
    refine ⟨length_of_le hsize, ?_⟩
    rw [tokens_ofDecls h]
    exact hdecls
  roles := fun _ _ hid => Nat.lt_of_lt_of_le (role?_lt (rolesFit_ofDecls h) hid) hsize

theorem storable_substitutes (ht : t.Storable) (hsize : t.size ≤ 2 ^ 32) :
    Assoc.Storable Word (Each Word) t.substitutes where
  proper := by
    have hkeys : t.substitutes.map (·.1) = t.substituted := by
      rw [substitutes, List.map_map]
      exact List.map_id _
    rw [Assoc.Proper, hkeys]
    exact nodup_substituted t
  entries := by
    refine ⟨?_, fun e he => ?_⟩
    · rw [substitutes, List.length_map]
      exact length_of_le (Nat.le_trans (length_substituted_le t) hsize)
    · obtain ⟨p, hp, rfl⟩ := List.mem_map.mp he
      obtain ⟨d, hd, link, hlink, rfl⟩ := exists_link_of_mem_substituted hp
      refine ⟨(ht.tokens.all d hd).parent link hlink, ?_, fun c hc => ?_⟩
      · exact length_of_le (Nat.le_trans (length_substitutesFor_le t link.id) hsize)
      · exact Nat.lt_of_lt_of_le (mem_substitutesFor_iff.mp hc).lt hsize

end TokenTable

/-- A rule in its place with storable token sets is storable, if there is a word for
every entity. -/
theorem Rule.Bounded.storable {size id entities : Nat} {r : Rule} (hr : r.Bounded size)
    (hplaced : Grammar.Placed id entities r) (hid : id < entities) (hentities : entities ≤ 2 ^ 32)
    {starting ending : TokenSet} (hstarting : TokenSet.Storable starting)
    (hending : TokenSet.Storable ending) :
    Rule.Storable { r with starting := starting, ending := ending } where
  id := by rw [hplaced.id_eq]; exact Nat.lt_of_lt_of_le hid hentities
  ranked := hr.ranked
  origin := hr.origin
  steps := ⟨hr.steps.size, fun s hs => ⟨(hr.steps.all s hs).length,
    fun e he => Nat.lt_of_lt_of_le (hplaced.sources_lt s hs e he) hentities⟩⟩
  args := hr.args
  starting := hstarting
  ending := hending

namespace Compile

/-- Numbering fills the index with the variants, of which every rule has some. -/
theorem numberFrom_filled {maxOptionals decl count : Nat} {id : RuleId} {ranks : RankIndex}
    {rules : List RuleDecl} {n : Numbering} (hranks : ranks.Filled count)
    (hrules : ∀ r ∈ rules, r.ranked.Storable) (hid : id + n.variants.length ≤ 2 ^ 32)
    (h : (numberFrom maxOptionals decl id ranks rules).outcome = .ok n) :
    n.ranks.Filled (count + n.variants.length) ∧ rules.length ≤ n.variants.length := by
  induction rules generalizing decl count id ranks n with
  | nil =>
    have hn : n = ⟨ranks, []⟩ := by
      unfold numberFrom at h
      exact (Except.ok.inj h).symm
    subst hn
    exact ⟨hranks, Nat.le_refl 0⟩
  | cons r rules ih =>
    obtain ⟨later, hlater, rfl⟩ := numberFrom_cons_ok h
    obtain ⟨hr, hrules⟩ := List.forall_mem_cons.mp hrules
    rw [List.length_append, length_variantsOf] at hid ⊢
    have hpos : 0 < 2 ^ r.optionalCount := Nat.two_pow_pos _
    have hids : ∀ q ∈ List.range' id (2 ^ r.optionalCount), Word q := by
      intro q hq
      have := (List.mem_range'_1.mp hq).2
      show q < 2 ^ 32
      grind
    have hadd := hranks.add hr (by rwa [List.length_range']) hids
    rw [List.length_range'] at hadd
    obtain ⟨hfilled, hle⟩ := ih hadd hrules (by grind) hlater
    rw [Nat.add_assoc] at hfilled
    exact ⟨hfilled, by rw [List.length_cons]; omega⟩

/-! ## Steps -/

theorem bounded_nonTerminal {size : Nat} {rs : List RuleId} (h : Length rs.length) :
    Step.Bounded size (.nonTerminal rs) :=
  ⟨h, nofun⟩

theorem bounded_pair (size : Nat) (last more : RuleId) :
    Step.Bounded size (.nonTerminal [last, more]) :=
  bounded_nonTerminal (show 2 < 2 ^ 64 by decide)

theorem bounded_terminal {size : Nat} {ts : List TokenId} (h : Length ts.length)
    (hts : ∀ t ∈ ts, t < size) : Step.Bounded size (.terminal ts) := by
  refine ⟨h, fun ts' heq => ?_⟩
  cases heq
  exact hts

namespace Context

variable {cx : Context}

/-- What parameters are looked up in is within bounds. -/
structure Limited (cx : Context) : Prop where
  substitutes_eq : cx.substitutes = cx.tokens.substitutes
  size_le : cx.tokens.size ≤ 2 ^ 32
  ranks : cx.ranks.Storable
  total_le : cx.ranks.total ≤ 2 ^ 32

section Limited

variable (hcx : cx.Limited)
include hcx

theorem Limited.terminal {rule param : String} {tokens accepted : List TokenId}
    (h : cx.terminal rule param tokens = .ok accepted) :
    Step.Bounded cx.tokens.size (.terminal accepted) := by
  have hlt := lt_of_mem_terminal hcx.substitutes_eq h
  obtain ⟨-, rfl⟩ := terminal_ok h
  rw [hcx.substitutes_eq] at hlt ⊢
  have hle := TokenTable.length_withDescendants_le (lt_of_terminal h)
  exact bounded_terminal (length_of_le (Nat.le_trans hle hcx.size_le)) hlt

theorem Limited.alternatives {rule param : String} {kind : Kind} {maxRank : Option Nat}
    {rules : List RuleId} (h : cx.alternatives rule param kind maxRank = .ok rules) :
    Step.Bounded cx.tokens.size (.nonTerminal rules) := by
  have hle := RankIndex.length_rulesOfKind_le (alternatives_ok h).1
  exact bounded_nonTerminal (length_of_le (Nat.le_trans hle hcx.total_le))

/-- The elements of a list have a kind and a rank that the index knows. -/
theorem Limited.elementRank {kind : Kind} {maxRank : Option Nat} {rules : List RuleId}
    (h : cx.ranks.rulesOfKind? kind maxRank = some rules) :
    RankedType.Storable ⟨kind, cx.elementRank kind maxRank⟩ := by
  unfold RankIndex.rulesOfKind? at h
  obtain ⟨top, htop, -⟩ := Option.map_eq_some_iff.mp h
  have hmem := (Assoc.mem_iff_get? hcx.ranks.maxRanks.proper).mpr htop
  obtain ⟨hkind, hrank⟩ := hcx.ranks.maxRanks.entries.all _ hmem
  refine ⟨hkind, ?_⟩
  rw [Context.elementRank, htop]
  cases maxRank with
  | none => exact hrank
  | some cap => exact Nat.lt_of_le_of_lt (Nat.min_le_right cap top) hrank

theorem Limited.listPlan {rule param : String} {element : Kind} {maxRank : Option Nat} {min : Nat}
    {delimiter : Option Delimiter} {l : ListPlan}
    (h : cx.listPlan rule param element maxRank min delimiter = .ok l) :
    l.ranked.Storable ∧ ∀ s ∈ l.itemSteps, s.Bounded cx.tokens.size := by
  obtain ⟨items, hitems, hranked, hsteps⟩ := listPlan_cases h
  rw [hranked]
  refine ⟨hcx.elementRank (alternatives_ok hitems).1, fun s hs => ?_⟩
  rcases hsteps s hs with rfl | ⟨token, ts, hts, rfl⟩
  · exact hcx.alternatives hitems
  · exact hcx.terminal hts

theorem Limited.step {rule : String} {p : Param Kind} {lists lists' : ListRules} {st : Step}
    (h : (cx.step rule p lists).outcome = .ok (st, lists')) : st.Bounded cx.tokens.size := by
  rcases step_cases h with ⟨ts, accepted, ha, rfl, -⟩ | ⟨k, cap, rs, hrs, rfl, -⟩ |
    ⟨el, cap, min, δ, l, -, -, rfl, -⟩
  · exact hcx.terminal ha
  · exact hcx.alternatives hrs
  · obtain ⟨rs, hrs, hlen⟩ := lists.step_sources l
    rw [hrs]
    exact bounded_nonTerminal (Nat.lt_of_le_of_lt hlen (by decide))

end Limited
end Context

/-! ## Rules -/

/-- The rules for a list have its ranked type and steps of its elements. -/
theorem ListPlan.Needs.bounded {size : Nat} {l : ListPlan} {last more : RuleId}
    {steps : List Step} (hn : l.Needs last more steps) (hranked : l.ranked.Storable)
    (hitem : ∀ s ∈ l.itemSteps, s.Bounded size) (hmin : Word l.min) (id : RuleId) {o : Origin}
    (ho : o.Storable) : Rule.Bounded size ⟨id, l.ranked, o, steps, [], [], []⟩ := by
  refine ⟨hranked, ho, ⟨?_, hn.forall_mem hitem (bounded_pair size last more)⟩, ⟨?_, by simp⟩⟩
  · have hlen := hn.length_le
    have hmin : l.min < 2 ^ 32 := hmin
    show steps.length < 2 ^ 64
    omega
  · show 0 < 2 ^ 64
    decide

/-- The rule of a declared one has its ranked type, its action and a step for some
of its parameters. -/
theorem Context.Follows.bounded {size decl : Nat} {decls : List RuleDecl} {r : Rule} {d : RuleDecl}
    (hf : Context.Follows (Step.Bounded size) decls r decl d) (hd : d.Storable)
    (hdecl : Word decl) : r.Bounded size where
  ranked := by rw [hf.ranked]; exact hd.ranked
  origin := by rw [hf.origin]; exact ⟨hd.action, hdecl⟩
  steps := ⟨Nat.lt_of_le_of_lt hf.length_steps hd.params.size, hf.steps⟩
  args := ⟨by rw [hf.length_args]; exact hd.params.size, fun _ _ => trivial⟩

/-- The rules of variants have steps within bounds, and list rules are within bounds. -/
theorem Context.Limited.rules {cx : Context} (hcx : cx.Limited) {decls : List RuleDecl}
    {id : RuleId} {lists lists' : ListRules} {variants : List Variant} {rs : List Rule}
    (hdecls : ∀ d ∈ decls, d.Storable) (hlists : ∀ r ∈ lists.rules, r.Bounded cx.tokens.size)
    (h : (cx.rules decls id lists variants).outcome = .ok (rs, lists')) :
    (∀ r ∈ lists'.rules, r.Bounded cx.tokens.size) ∧
      ∀ r ∈ rs, ∃ decl d, Context.Follows (Step.Bounded cx.tokens.size) decls r decl d := by
  refine Context.rules_keep (P := fun s => ∀ r ∈ s.rules, r.Bounded cx.tokens.size)
    (fun d hd p hp s s' st hs hstep => ⟨?_, hcx.step hstep⟩) hlists h
  rcases Context.step_lists hstep with rfl | ⟨el, cap, min, δ, l, hshape, hl, rfl⟩
  · exact hs
  · -- up to three rules are new, each with steps that the list needs
    obtain ⟨hranked, hitem⟩ := hcx.listPlan hl
    have hmin : Word l.min := by
      have := (hdecls d hd).params.all p hp
      rw [hshape] at this
      rw [(Context.listPlan_ok hl).2.2]
      exact this
    refine ListRules.forall_mem_step hs (fun id => ?_) (fun id last more => ?_)
      (fun id last more h3 => ?_)
    · have hn : l.Needs 0 0 l.lastSteps := Or.inl rfl
      exact hn.bounded hranked hitem hmin id trivial
    · have hn : l.Needs last more (l.moreSteps last more) := Or.inr (Or.inl rfl)
      exact hn.bounded hranked hitem hmin id trivial
    · have hn : l.Needs last more (l.leadingSteps last more) := Or.inr (Or.inr ⟨h3, rfl⟩)
      exact hn.bounded hranked hitem hmin id trivial

namespace Parts.Made

variable {p : Parts} {options : Options} {tokens : TokenTable} {d : Declaration}
  (hp : p.Made options tokens d) (hd : d.Storable)
  (hsize : tokens.size + p.rules.length ≤ 2 ^ 32)
include hp hsize

theorem variants_le : tokens.size + p.numbering.variants.length ≤ 2 ^ 32 := by
  rw [← hp.good.length_declared]
  rw [Parts.rules, List.length_append] at hsize
  omega

include hd

theorem filled : p.numbering.ranks.Filled p.numbering.variants.length ∧
    d.rules.length ≤ p.numbering.variants.length := by
  have := numberFrom_filled RankIndex.filled_empty (fun r hr => (hd.rules r hr).ranked)
    (hp.variants_le hsize) hp.numbering_eq
  rwa [Nat.zero_add] at this

theorem limited : (p.context tokens d).Limited := by
  have hle := hp.variants_le hsize
  obtain ⟨hfilled, -⟩ := hp.filled hd hsize
  refine ⟨rfl, ?_, hfilled.storable (by omega), ?_⟩
  · show tokens.size ≤ 2 ^ 32
    omega
  · show p.numbering.ranks.total ≤ 2 ^ 32
    rw [hfilled.total_eq]
    omega

theorem bounded : ∀ r ∈ p.rules, r.Bounded tokens.size := by
  have hstart : ∀ q ∈ (ListRules.startingAt
      (tokens.size + p.numbering.variants.length)).rules, q.Bounded tokens.size := by
    simp [ListRules.startingAt, ListRules.rules]
  obtain ⟨hlists, hdeclared⟩ := (hp.limited hd hsize).rules hd.rules hstart hp.rules_eq
  intro r hr
  rcases List.mem_append.mp hr with hr | hr
  · obtain ⟨decl, dcl, hf⟩ := hdeclared r hr
    -- every declared rule has a variant, so places of declarations are words, too
    have hdecl : decl < 2 ^ 32 := by
      have h1 := (List.getElem?_eq_some_iff.mp hf.get).1
      have h2 := (hp.filled hd hsize).2
      have h3 := hp.variants_le hsize
      omega
    exact hf.bounded (hd.rules dcl (List.mem_of_getElem? hf.get)) hdecl
  · exact hlists r hr

/-! ## Token sets -/

variable {i : Nat} (hi : i < p.rules.length)
include hi

omit hd in
theorem storable_starting : TokenSet.Storable
    ((startingSets (nullable tokens.size p.rules) tokens.size p.rules).1.getD i []) :=
  TokenSet.storable_of_lt (Nat.le_trans (Nat.le_add_right _ _) hsize)
    (ascending_startingSets hp.good.linked i) fun _ ht =>
      lt_of_mem_startingSets hp.good.linked hp.good.sources_ne hp.tokens_lt hi ht

omit hd in
theorem storable_ending {eos : TokenId} (heos : eos < tokens.size) : TokenSet.Storable
    ((endingSets (nullable tokens.size p.rules) tokens.size eos
      (startingSets (nullable tokens.size p.rules) tokens.size p.rules).1 p.rules).1.getD i []) :=
  TokenSet.storable_of_lt (Nat.le_trans (Nat.le_add_right _ _) hsize)
    (ascending_endingSets hp.good.linked i) fun _ ht =>
      lt_of_mem_endingSets hp.good.linked hp.good.sources_ne hp.tokens_lt heos hi ht

omit hi in
theorem storable_settledRule {r : Rule} (hr : p.rules[i]? = some r) {eos : TokenId}
    (heos : eos < tokens.size) : (settledRule tokens.size eos p.rules i r).Storable := by
  have hi := (List.getElem?_eq_some_iff.mp hr).1
  have hbounded := hp.bounded hd hsize r (List.mem_of_getElem? hr)
  exact hbounded.storable (hp.placed hr) (Nat.add_lt_add_left hi _) hsize
    (hp.storable_starting hsize hi) (hp.storable_ending hsize hi heos)

end Parts.Made

/-! ## The whole grammar -/

/-- **Room for compiled grammars.** A grammar that is compiled from storable
declarations is storable, if there are words to number its tokens and rules, and
it hangs together. -/
theorem compile_storable {options : Options} {decls : List TokenDecl} {tokens : TokenTable}
    {d : Declaration} {start : String} {g : Grammar}
    (htokens : TokenTable.ofDecls decls = .ok tokens) (hdecls : ∀ t ∈ decls, t.Storable)
    (hd : d.Storable) (h : (compile options tokens d start).outcome = .ok g)
    (hsize : g.entityCount ≤ 2 ^ 32) : g.Storable ∧ g.inconsistency? = none := by
  obtain ⟨p, hp, heos, hstart, hinitial, hg⟩ := compile_made h
  have hentities : g.entityCount = tokens.size + p.rules.length := by
    rw [hg]
    exact congrArg (tokens.size + ·) (length_settledRules _ _ _)
  rw [hentities] at hsize
  have hfit := TokenTable.rolesFit_ofDecls htokens
  have heos := TokenTable.role?_lt hfit heos
  have hle : tokens.size ≤ 2 ^ 32 := by omega
  have htable := TokenTable.storable_ofDecls htokens hdecls hle
  have hcx := hp.limited hd hsize
  have hrules : ∀ r ∈ settledRules tokens.size g.endOfStream p.rules, r.Storable := by
    intro r hr
    obtain ⟨i, q, hq, rfl⟩ := mem_settledRules_iff.mp hr
    exact hp.storable_settledRule hd hsize hq heos
  have hinit : Each Word g.initial :=
    ⟨length_of_le (Nat.le_trans (RankIndex.length_rulesOfKind_le hinitial) hcx.total_le),
      fun q hq => Nat.lt_of_lt_of_le (hp.good.bounds_of_rulesOfKind hinitial hq).2 hsize⟩
  refine ⟨?_, ?_⟩
  · rw [hg]
    exact {
      tokens := htable
      kinds := ⟨length_of_le hd.count, hd.names⟩
      start := Nat.lt_of_lt_of_le (KindTable.lt_of_get? hstart) hd.count
      endOfStream := Nat.lt_of_lt_of_le heos hle
      ranks := hcx.ranks
      rules := ⟨length_of_le (by rw [length_settledRules]; omega), hrules⟩
      substitutes := TokenTable.storable_substitutes htable hle
      initial := hinit }
  · rw [hg]
    exact hp.inconsistency?_eq_none heos

end Compile
end GrammarKit
