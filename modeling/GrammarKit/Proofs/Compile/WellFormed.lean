import GrammarKit.Proofs.Compile.Checked
import GrammarKit.Proofs.Compile.ListForms
import GrammarKit.Proofs.Compile.Reached
import GrammarKit.Proofs.Compile.Sources
import GrammarKit.Proofs.Declaration
import GrammarKit.Proofs.Token.Table

/-!
# Compiled grammars are well formed

`Grammar.WellFormed` is what an engine may rely on in a compiled grammar: where rules
stand, what their steps and token sets name, where a parse begins, and that the grammar
passes the check that a grammar read from a blob has to pass. `compile_wellFormed`:
compilation does not fault, and the grammars it gives are well formed.

Ids are natural numbers here, so nothing is said about how many of them there are.
-/
namespace GrammarKit

open Relation (ReflTransGen)

/-- The grammar has no loose ends. -/
structure Grammar.WellFormed (g : Grammar) : Prop where
  /-- Rule ids are dense and go on from the tokens. -/
  dense : ∀ i r, g.rules[i]? = some r → r.id = g.tokenCount + i
  /-- All declared rules stand before all rules made for lists. -/
  declared_first : ∃ declared synthetic, g.rules = declared ++ synthetic ∧
    (∀ r ∈ declared, r.origin.isSynthetic = false) ∧
    ∀ r ∈ synthetic, r.origin.isSynthetic = true
  sources_ne : ∀ r ∈ g.rules, ∀ s ∈ r.steps, s.sources ≠ []
  sources_nodup : ∀ r ∈ g.rules, ∀ s ∈ r.steps, s.sources.Nodup
  terminal : ∀ r ∈ g.rules, ∀ ts, .terminal ts ∈ r.steps → ∀ t ∈ ts, g.isToken t = true
  nonTerminal : ∀ r ∈ g.rules, ∀ rs, .nonTerminal rs ∈ r.steps →
    ∀ q ∈ rs, ∃ r' ∈ g.rules, r'.id = q
  starting : ∀ r ∈ g.rules, ∀ t ∈ r.starting, g.isToken t = true
  ending : ∀ r ∈ g.rules, ∀ t ∈ r.ending, g.isToken t = true
  /-- Every rule produces a kind that has a name. -/
  kind : ∀ r ∈ g.rules, ∃ name, g.kinds.name? r.ranked.kind = some name
  initial_ne : g.initial ≠ []
  /-- A parse begins with declared rules of the start kind. -/
  initial : ∀ q ∈ g.initial, ∃ r ∈ g.rules, r.id = q ∧ r.origin.isSynthetic = false ∧
    r.ranked.kind = g.start
  /-- A declared rule leads to every rule made for lists. -/
  reached : ∀ r ∈ g.rules, r.origin.isSynthetic = true →
    ∃ r₀ ∈ g.rules, r₀.origin.isSynthetic = false ∧ ReflTransGen (Uses g.rules) r₀.id r.id
  consistent : g.inconsistency? = none

namespace Compile

namespace Parts.Made

variable {p : Parts} {options : Options} {tokens : TokenTable} {d : Declaration}
  (hp : p.Made options tokens d)
include hp

theorem declared_not_synthetic : ∀ r ∈ p.declared, r.origin.isSynthetic = false := by
  intro r hr
  obtain ⟨decl, dcl, hdescends⟩ := hp.declared_descends r hr
  rw [hdescends.origin]
  rfl

/-- The rules of a kind are declared ones that produce it. -/
theorem exists_declared_of_rulesOfKind {k : Kind} {cap : Option Nat} {rs : List RuleId}
    (hrs : p.numbering.ranks.rulesOfKind? k cap = some rs) {q : RuleId} (hq : q ∈ rs) :
    ∃ r ∈ p.declared, r.id = q ∧ r.ranked.kind = k := by
  obtain ⟨j, v, dcl, hj, rfl, hdcl, hkind, -⟩ :=
    hp.good.exists_variant ((RankIndex.mem_getD_iff hrs).mpr hq)
  have hlt : j < p.declared.length := by
    rw [hp.good.length_declared]
    exact (List.getElem?_eq_some_iff.mp hj).1
  have hplace : p.rules[j]? = some p.declared[j] := by
    rw [Parts.rules, List.getElem?_append_left hlt, List.getElem?_eq_getElem hlt]
  -- the rule at the place of the variant is one of its declaration
  have hof : Context.OfVariant d.rules v p.declared[j] := by
    obtain ⟨hlt', rfl⟩ := List.getElem?_eq_some_iff.mp hj
    exact (Context.rules_ofVariant hp.exists_decl hp.rules_eq).get hlt' hlt
  obtain ⟨dcl', hdcl', hranked, -⟩ := hof
  refine ⟨p.declared[j], List.getElem_mem hlt, hp.good.id_eq hplace, ?_⟩
  rw [hdcl] at hdcl'
  rw [hranked, ← Option.some.inj hdcl']
  exact hkind

end Parts.Made

/-- Rules keep their origins when they learn their tokens. -/
theorem settledRules_append (first : RuleId) (eos : TokenId) (before after : List Rule) :
    ∃ l l', settledRules first eos (before ++ after) = l ++ l' ∧
      (∀ r ∈ l, ∃ r' ∈ before, r.origin = r'.origin) ∧
      ∀ r ∈ l', ∃ r' ∈ after, r.origin = r'.origin := by
  refine ⟨_, _, by rw [settledRules, List.zipIdx_append, List.map_append], ?_, ?_⟩
  · intro r hr
    obtain ⟨⟨r', i⟩, hmem, rfl⟩ := List.mem_map.mp hr
    exact ⟨r', List.fst_mem_of_mem_zipIdx hmem, settledRule_origin ..⟩
  · intro r hr
    obtain ⟨⟨r', i⟩, hmem, rfl⟩ := List.mem_map.mp hr
    exact ⟨r', List.fst_mem_of_mem_zipIdx hmem, settledRule_origin ..⟩

/-- Token sets do not matter to which rules lead to which. -/
theorem exists_settled (first : RuleId) (eos : TokenId) {rules : List Rule} {r : Rule}
    (hr : r ∈ rules) : ∃ r' ∈ settledRules first eos rules,
      r'.id = r.id ∧ r'.origin = r.origin ∧ r'.ranked = r.ranked := by
  obtain ⟨i, hi⟩ := List.getElem?_of_mem hr
  exact ⟨settledRule first eos rules i r, mem_settledRules_iff.mpr ⟨i, r, hi, rfl⟩,
    settledRule_id .., settledRule_origin .., settledRule_ranked ..⟩

/-- **Well-formed grammars.** What is put together is well formed. -/
theorem Parts.Made.wellFormed {p : Parts} {options : Options} {tokens : TokenTable}
    {d : Declaration} (hp : p.Made options tokens d)
    (hkinds : ∀ r ∈ d.rules, r.produces < d.kinds.names.length) {start : Kind} {eos : TokenId}
    {initial : List RuleId} (heos : eos < tokens.size)
    (hinitial : p.numbering.ranks.rulesOfKind? start none = some initial) :
    Grammar.WellFormed ⟨tokens, d.kinds, start, eos, p.numbering.ranks,
      settledRules tokens.size eos p.rules, tokens.substitutes, initial⟩ where
  dense := by
    intro i r hr
    obtain ⟨r', hr', rfl⟩ := exists_of_getElem?_settledRules hr
    rw [settledRule_id]
    exact hp.good.id_eq hr'
  declared_first := by
    obtain ⟨l, l', hsplit, hl, hl'⟩ :=
      settledRules_append tokens.size eos p.declared p.lists.rules
    refine ⟨l, l', hsplit, fun r hr => ?_, fun r hr => ?_⟩
    · obtain ⟨r', hr', horigin⟩ := hl r hr
      rw [horigin]
      exact hp.declared_not_synthetic r' hr'
    · obtain ⟨r', hr', horigin⟩ := hl' r hr
      rw [horigin]
      exact hp.lists_synthetic r' hr'
  sources_ne := by
    intro r hr
    obtain ⟨r', hr', -, hsteps⟩ := exists_mem_of_mem_settledRules hr
    rw [← hsteps]
    exact hp.good.sources_ne r' hr'
  sources_nodup := by
    intro r hr
    obtain ⟨r', hr', -, hsteps⟩ := exists_mem_of_mem_settledRules hr
    rw [← hsteps]
    exact hp.nodup_sources hr'
  terminal := by
    intro r hr ts hts t ht
    obtain ⟨r', hr', -, hsteps⟩ := exists_mem_of_mem_settledRules hr
    rw [← hsteps] at hts
    exact decide_eq_true (hp.tokens_lt r' hr' _ hts t ht)
  nonTerminal := by
    intro r hr rs hrs q hq
    obtain ⟨r', hr', -, hsteps⟩ := exists_mem_of_mem_settledRules hr
    rw [← hsteps] at hrs
    obtain ⟨hlow, hhigh⟩ := hp.good.linked.source_bounds r' hr' rs hrs q hq
    obtain ⟨r₁, hr₁, hid₁⟩ := hp.good.linked.exists_rule hlow hhigh
    obtain ⟨r₂, hr₂, hid₂, -⟩ :=
      exists_mem_settledRules tokens.size eos (List.mem_of_getElem? hr₁)
    exact ⟨r₂, hr₂, hid₂.trans hid₁⟩
  starting := by
    intro r hr t ht
    obtain ⟨i, r', hr', rfl⟩ := mem_settledRules_iff.mp hr
    have hi := (List.getElem?_eq_some_iff.mp hr').1
    exact decide_eq_true
      (lt_of_mem_startingSets hp.good.linked hp.good.sources_ne hp.tokens_lt hi ht)
  ending := by
    intro r hr t ht
    obtain ⟨i, r', hr', rfl⟩ := mem_settledRules_iff.mp hr
    have hi := (List.getElem?_eq_some_iff.mp hr').1
    exact decide_eq_true
      (lt_of_mem_endingSets hp.good.linked hp.good.sources_ne hp.tokens_lt heos hi ht)
  kind := by
    intro r hr
    obtain ⟨i, r', hr', rfl⟩ := mem_settledRules_iff.mp hr
    have hlt := hp.kind_lt hkinds r' (List.mem_of_getElem? hr')
    rw [settledRule_ranked]
    exact ⟨_, List.getElem?_eq_getElem hlt⟩
  initial_ne := RankIndex.rulesOfKind_ne_nil hp.numbered.valid hp.fresh.peopled hinitial
  initial := by
    intro q hq
    obtain ⟨r, hr, rfl, hkind⟩ := hp.exists_declared_of_rulesOfKind hinitial hq
    obtain ⟨r', hr', hid, horigin, hranked⟩ :=
      exists_settled tokens.size eos (List.mem_append_left p.lists.rules hr)
    refine ⟨r', hr', hid, ?_, ?_⟩
    · rw [horigin]
      exact hp.declared_not_synthetic r hr
    · rw [hranked]
      exact hkind
  reached := by
    intro r hr hsynthetic
    obtain ⟨i, q, hq, rfl⟩ := mem_settledRules_iff.mp hr
    have hlists : q ∈ p.lists.rules := by
      rcases List.mem_append.mp (List.mem_of_getElem? hq) with hq | hq
      · rw [settledRule_origin, hp.declared_not_synthetic q hq] at hsynthetic
        cases hsynthetic
      · exact hq
    obtain ⟨r₀, hr₀, hreach⟩ := hp.reached hlists
    obtain ⟨r₁, hr₁, hid, horigin, -⟩ :=
      exists_settled tokens.size eos (List.mem_append_left p.lists.rules hr₀)
    refine ⟨r₁, hr₁, ?_, ?_⟩
    · rw [horigin]
      exact hp.declared_not_synthetic r₀ hr₀
    · rw [hid, settledRule_id]
      exact reaches_mono (fun r hr => exists_mem_settledRules tokens.size eos hr) hreach
  consistent := hp.inconsistency?_eq_none heos

/-- **Compilation.** From a table of tokens and a declaration that were built, compilation
does not fault, and a grammar that it gives is well formed and parses the start kind. -/
theorem compile_wellFormed {decls : List TokenDecl} {tokens : TokenTable} {d : Declaration}
    (htokens : TokenTable.ofDecls decls = .ok tokens) (hd : d.Built) (options : Options)
    (start : String) :
    (Checked.compile options tokens d start =
        Failure.ofError (compile options tokens d start).outcome ∧
      ∀ f, Checked.compile options tokens d start ≠ .error (.fault f)) ∧
    ∀ g, (compile options tokens d start).outcome = .ok g →
      g.WellFormed ∧ g.kinds.get? start = some g.start := by
  have heq := Checked.compile_eq options tokens d start
  refine ⟨⟨heq, fun f hf => ?_⟩, fun g hg => ?_⟩
  · rw [heq] at hf
    cases hout : (compile options tokens d start).outcome with
    | ok g => simp [hout] at hf
    | error e => simp [hout] at hf
  · obtain ⟨p, hp, heos, hstart, hinitial, hparts⟩ := compile_made hg
    have hlt := TokenTable.role?_lt (TokenTable.rolesFit_ofDecls htokens) heos
    rw [hparts]
    exact ⟨hp.wellFormed hd.produces_lt hlt hinitial, hstart⟩

/-- The grammar of enumerations is declared by two rules. -/
theorem built_enumeration : enumeration.Built := by
  have hbuilt := Declaration.Built.withRule ⟨"item", "item", 0, [⟨"word", .terminal [1] false⟩]⟩
    (.withRule ⟨"enumeration", "enumeration", 0,
      [⟨"items", .list (.named "item") none 1 (some (.separator 2))⟩]⟩ .empty)
  exact hbuilt

theorem wellFormed_enumeration : enumerationGrammar.WellFormed := by
  have htokens : TokenTable.ofDecls enumerationTokens.tokens = .ok enumerationTokens := by cbv
  exact ((compile_wellFormed htokens built_enumeration .default "enumeration").2 _
    compile_enumeration).1

end Compile
end GrammarKit
