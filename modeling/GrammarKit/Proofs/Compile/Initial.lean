import GrammarKit.Proofs.Compile.WellFormed
import GrammarKit.Proofs.RankHistory

/-!
# Where parses begin

Numbering registers the ranked type of each declaration and binds its variants, so the index
of a compiled grammar has a history (`exists_run_of_numberFrom`). A parse begins with what
that index answers for the start kind without a cap. These are the rules of the declarations
that produce the kind, at whatever rank (`Made.mem_rulesOfKind_iff`).
-/
namespace GrammarKit.Compile

open RankIndex (Call History run)

/-- What numbering adds to an index, calls add, too. -/
theorem exists_run_of_numberFrom {maxOptionals decl : Nat} {id : RuleId} {ranks : RankIndex}
    {rules : List RuleDecl} {n : Numbering}
    (h : (numberFrom maxOptionals decl id ranks rules).outcome = .ok n) :
    ∃ calls, n.ranks = ranks.run calls := by
  induction rules generalizing decl id ranks n with
  | nil =>
    unfold numberFrom at h
    cases h
    exact ⟨[], rfl⟩
  | cons r rules ih =>
    obtain ⟨later, hlater, rfl⟩ := numberFrom_cons_ok h
    obtain ⟨calls, hcalls⟩ := ih hlater
    rw [addVariants, RankIndex.add_eq_run, ← RankIndex.run_append] at hcalls
    exact ⟨_, hcalls⟩

namespace Parts.Made

variable {p : Parts} {options : Options} {tokens : TokenTable} {d : Declaration}
  (hp : p.Made options tokens d)
include hp

/-- The index has every declared rule under the ranked type that the rule has. -/
theorem mem_rulesAt_of_declared {r : Rule} (hr : r ∈ p.declared) :
    r.id ∈ p.numbering.ranks.rulesAt r.ranked := by
  obtain ⟨j, hj⟩ := List.getElem?_of_mem hr
  obtain ⟨hlt, rfl⟩ := List.getElem?_eq_some_iff.mp hj
  have hlt' : j < p.numbering.variants.length := hp.good.length_declared ▸ hlt
  obtain ⟨dcl, hdcl, hranked, -⟩ :=
    (Context.rules_ofVariant hp.exists_decl hp.rules_eq).get hlt' hlt
  have hplace : p.rules[j]? = some p.declared[j] := by
    rw [Parts.rules, List.getElem?_append_left hlt, hj]
  refine (hp.numbered.mem_rulesAt _ _).mpr (Or.inr ⟨j, _, _, dcl,
    List.getElem?_eq_getElem hlt', hp.good.id_eq hplace, hdcl, (Nat.zero_add _).symm, ?_⟩)
  exact hranked.symm

/-- **The rules of a kind.** Without a cap, they are all the declared rules that produce it. -/
theorem mem_rulesOfKind_iff {k : Kind} {rs : List RuleId}
    (hrs : p.numbering.ranks.rulesOfKind? k none = some rs) {q : RuleId} :
    q ∈ rs ↔ ∃ r ∈ p.declared, r.id = q ∧ r.ranked.kind = k := by
  refine ⟨hp.exists_declared_of_rulesOfKind hrs, ?_⟩
  rintro ⟨r, hr, rfl, rfl⟩
  rw [← RankIndex.mem_getD_iff hrs, RankIndex.mem_rulesOfKind_iff hp.numbered.valid]
  exact ⟨r.ranked.rank, nofun, hp.mem_rulesAt_of_declared hr⟩

/-- The rules that are not synthetic are the declared ones, once they know their tokens. -/
theorem exists_declared_iff {eos : TokenId} {k : Kind} {q : RuleId} :
    (∃ r ∈ settledRules tokens.size eos p.rules,
        r.id = q ∧ r.origin.isSynthetic = false ∧ r.ranked.kind = k) ↔
      ∃ r ∈ p.declared, r.id = q ∧ r.ranked.kind = k := by
  constructor
  · rintro ⟨r, hr, rfl, horigin, rfl⟩
    obtain ⟨i, r', hr', rfl⟩ := mem_settledRules_iff.mp hr
    rw [settledRule_origin] at horigin
    refine ⟨r', ?_, (settledRule_id ..).symm, by rw [settledRule_ranked]⟩
    rcases List.mem_append.mp (List.mem_of_getElem? hr') with hmem | hmem
    · exact hmem
    · rw [hp.lists_synthetic r' hmem] at horigin
      cases horigin
  · rintro ⟨r, hr, rfl, rfl⟩
    obtain ⟨r', hr', hid, horigin, hranked⟩ :=
      exists_settled tokens.size eos (List.mem_append_left p.lists.rules hr)
    refine ⟨r', hr', hid, ?_, by rw [hranked]⟩
    rw [horigin]
    exact hp.declared_not_synthetic r hr

end Parts.Made

/-- **Ranks.** After any calls, an index answers by what the calls did, and for the types
that they registered. The index of a compiled grammar is made by such calls; the rules that
a parse begins with are its declared rules that produce the start kind, each listed once. -/
theorem ranks_answer :
    (∀ calls, (run .empty calls).Answers (.of calls) ∧
      ∀ r, r ∈ (History.of calls).types ↔ .register r ∈ calls) ∧
    ∀ options tokens d start g, (compile options tokens d start).outcome = .ok g →
      (∃ calls, g.ranks = run .empty calls) ∧ g.initial.Nodup ∧
        ∀ q, q ∈ g.initial ↔
          ∃ r ∈ g.rules, r.id = q ∧ r.origin.isSynthetic = false ∧ r.ranked.kind = g.start := by
  refine ⟨fun calls => ⟨(RankIndex.Records.of_run calls).answers,
    fun r => History.mem_types_of⟩, ?_⟩
  intro options tokens d start g h
  obtain ⟨p, hp, -, -, hinitial, hparts⟩ := compile_made h
  have hranks : g.ranks = p.numbering.ranks := congrArg Grammar.ranks hparts
  have hrules : g.rules = settledRules tokens.size g.endOfStream p.rules :=
    congrArg Grammar.rules hparts
  refine ⟨?_, RankIndex.nodup_rulesOfKind hp.fresh.nodup hinitial, fun q => ?_⟩
  · rw [hranks]
    exact exists_run_of_numberFrom hp.numbering_eq
  · rw [hp.mem_rulesOfKind_iff hinitial, hrules, hp.exists_declared_iff]

/-- Kind 0 is registered at rank 5 before it is at rank 2. One rule is bound to a number that
was not given out. -/
def sparseCalls : List Call :=
  [.register ⟨0, 5⟩, .pushRule 0 10, .pushRule 1 11, .register ⟨0, 2⟩, .pushRule 1 12,
    .register ⟨0, 5⟩, .pushRule 0 13]

/-- Lower ranks come first all the same. A grammar of enumerations is parsed by the one
rule for enumerations. -/
theorem ranks_answer_sparse :
    (run .empty sparseCalls).rulesOfKind? 0 none = some [12, 10, 13] ∧
      (run .empty sparseCalls).rulesOfKind? 0 (some 4) = some [12] ∧
      (run .empty sparseCalls).maxRank? 0 = some 5 ∧
      (run .empty sparseCalls).id? ⟨0, 2⟩ = some 1 ∧
      (4 ∉ enumerationGrammar.initial) := by
  obtain ⟨hanswers, hinitial⟩ := ranks_answer
  obtain ⟨hsparse, -⟩ := hanswers sparseCalls
  have hranks : (History.of sparseCalls).ranksOf 0 = [5, 2] := by decide
  refine ⟨?_, ?_, ?_, ?_, ?_⟩
  · rw [hsparse.rulesOfKind?_eq 0 none (by rw [hranks]; simp)]
    cbv
  · rw [hsparse.rulesOfKind?_eq 0 (some 4) (by rw [hranks]; simp)]
    cbv
  · rw [hsparse.maxRank?_eq, hranks]
    rfl
  · rw [hsparse.id?_eq_some_iff, hsparse.type?_eq]
    rfl
  · rw [(hinitial _ _ _ _ _ compile_enumeration).2.2]
    decide

end GrammarKit.Compile
