import GrammarKit.Proofs.Compile.Grammar
import Mathlib.Data.List.Forall2

/-!
# Tokens that stand in for others

With every token, the terminals of a compiled grammar accept what can stand for
it, whether they come from a parameter or from the delimiter of a list
(`accommodates`). Three things follow. In a word that a rule derives, tokens can
be replaced one by one (`words_of_substituted`). A token that starts a rule brings
along what can stand for it, and so does one that follows a rule
(`mem_startingSets_of_substituted`, `mem_endingSets_of_substituted`): both passes
start with tokens of terminals and hand them on together.

`substitutes_stand_in` says all this of a compiled grammar. Only the end of the
stream, which every rule is followed by, brings nothing along.
-/
namespace GrammarKit

/-- With every token, the step accepts the tokens that `R` puts in its place. -/
def Step.Accommodates (R : TokenId → TokenId → Prop) : Step → Prop
  | .terminal ts => ∀ t ∈ ts, ∀ c, R t c → c ∈ ts
  | .nonTerminal _ => True

section Words

variable {R : TokenId → TokenId → Prop}

/-- If rules derive what is put in the place of their words, so do steps. -/
theorem spells_of_substituted {L : RuleId → List TokenId → Prop} {steps : List Step}
    (hsteps : ∀ s ∈ steps, s.Accommodates R) {w w' : List TokenId} (hw : List.Forall₂ R w w')
    (h : Spells (Step.Reads fun r w => ∀ w', List.Forall₂ R w w' → L r w') steps w) :
    Spells (Step.Reads L) steps w' := by
  induction steps generalizing w w' with
  | nil =>
    cases h
    cases hw
    rfl
  | cons s steps ih =>
    obtain ⟨hs, hsteps⟩ := List.forall_mem_cons.mp hsteps
    obtain ⟨u, v, rfl, hu, hv⟩ := h
    have hleft : List.Forall₂ R u (w'.take u.length) := by
      have := List.forall₂_take u.length hw
      rwa [List.take_left] at this
    have hright : List.Forall₂ R v (w'.drop u.length) := by
      have := List.forall₂_drop u.length hw
      rwa [List.drop_left] at this
    refine ⟨_, _, (List.take_append_drop u.length w').symm, ?_, ih hsteps hright hv⟩
    generalize w'.take u.length = u' at hleft
    cases s with
    | terminal ts =>
      obtain ⟨t, ht, rfl⟩ := hu
      obtain ⟨c, _, htc, hnil, rfl⟩ := List.forall₂_cons_left_iff.mp hleft
      cases hnil
      exact ⟨c, hs t ht c htc, rfl⟩
    | nonTerminal rs =>
      obtain ⟨r, hr, hwords⟩ := hu
      exact ⟨r, hr, hwords u' hleft⟩

/-- In the words of a rule, tokens can be replaced. -/
theorem words_of_substituted {rules : List Rule}
    (hrules : ∀ r ∈ rules, ∀ s ∈ r.steps, s.Accommodates R) {r : RuleId} {w w' : List TokenId}
    (h : Words rules r w) (hw : List.Forall₂ R w w') : Words rules r w' := by
  have hclosed : WordClosed rules fun r w => ∀ w', List.Forall₂ R w w' → Words rules r w' :=
    fun r hr _ hsteps w' hw' =>
      closed_words rules r hr w' (spells_of_substituted (hrules r hr) hw' hsteps)
  exact closed_of_derives hclosed h w' hw

end Words

namespace Compile

/-! ## Token sets -/

section Sets

variable {R : TokenId → TokenId → Prop} {known : Array Bool} {first : RuleId} {eos : TokenId}
  {rules : List Rule} {t c : TokenId}
  (hl : Linked first rules) (hrules : ∀ r ∈ rules, ∀ s ∈ r.steps, s.Accommodates R)
include hl hrules

theorem mem_startingSets_of_substituted {i : Nat}
    (ht : t ∈ (startingSets known first rules).1.getD i []) (hc : R t c) :
    c ∈ (startingSets known first rules).1.getD i [] := by
  rw [mem_startingSets_iff_path hl] at ht ⊢
  obtain ⟨j, hpath, r, hr, ts, hs, ht⟩ := ht
  have hstep := hrules r (List.mem_of_getElem? hr) (.terminal ts) hs.mem
  exact ⟨j, hpath, r, hr, ts, hs, hstep t ht c hc⟩

theorem mem_endingSets_of_substituted {i : Nat}
    (ht : t ∈ (endingSets known first eos (startingSets known first rules).1 rules).1.getD i [])
    (hne : t ≠ eos) (hc : R t c) :
    c ∈ (endingSets known first eos (startingSets known first rules).1 rules).1.getD i [] := by
  rw [mem_endingSets_iff_path hl] at ht ⊢
  obtain ⟨j, hpath, ⟨-, heq⟩ | ⟨r, hr, rs, post, ho, q, hq, hj, ht⟩⟩ := ht
  · exact absurd heq hne
  · refine ⟨j, hpath, .inr ⟨r, hr, rs, post, ho, q, hq, hj, ?_⟩⟩
    obtain ⟨s, hs, hcase⟩ := mem_startOf.mp ht
    refine mem_startOf.mpr ⟨s, hs, ?_⟩
    rcases hcase with ⟨ts, rfl, ht⟩ | ⟨rs', rfl, q', hq', ht⟩
    · obtain ⟨pre, hsplit⟩ := ho.exists_split
      have hmem : .terminal ts ∈ r.steps := by
        rw [hsplit]
        exact List.mem_append_right pre (List.mem_cons_of_mem _ hs.mem)
      exact .inl ⟨ts, rfl, hrules r hr _ hmem t ht c hc⟩
    · exact .inr ⟨rs', rfl, q', hq', mem_startingSets_of_substituted hl hrules ht hc⟩

end Sets

/-! ## Compiled grammars -/

/-- The steps that compilation makes accept what can stand for their tokens. -/
theorem Parts.Good.accommodates {p : Parts} {tokens : TokenTable} {d : Declaration}
    (hp : p.Good tokens d) : ∀ r ∈ p.rules, ∀ s ∈ r.steps, s.Accommodates tokens.CanStandFor := by
  intro r hr s hs
  cases hp.stepForm hr s hs with
  | terminal _ =>
    intro t ht c hc
    rw [TokenTable.mem_withDescendants_substitutes_iff] at ht ⊢
    obtain ⟨a, ha, hat⟩ := ht
    exact ⟨a, ha, hat.trans hc⟩
  | kind _ _ => trivial
  | pair _ => trivial
  | single _ => trivial

/-- **Substitutes stand in everywhere.** In a compiled grammar, a token of a word
that a rule derives can be replaced by any token that can stand for it. Where a
token starts a rule, or follows one and does not end the stream, so does what can
stand for it. -/
theorem substitutes_stand_in {options : Options} {tokens : TokenTable} {d : Declaration}
    {start : String} {g : Grammar} (h : (compile options tokens d start).outcome = .ok g)
    {r : Rule} (hr : r ∈ g.rules) {t c : TokenId} (hc : tokens.CanStandFor t c) :
    (∀ u v, Words g.rules r.id (u ++ t :: v) → Words g.rules r.id (u ++ c :: v)) ∧
      (t ∈ r.starting → c ∈ r.starting) ∧
      (t ∈ r.ending → t ≠ g.endOfStream → c ∈ r.ending) := by
  obtain ⟨p, hp, -, hrules⟩ := compile_ok h
  have hsteps := hp.accommodates
  rw [hrules] at hr ⊢
  refine ⟨fun u v hw => ?_, ?_⟩
  · have hword : List.Forall₂ tokens.CanStandFor (u ++ t :: v) (u ++ c :: v) :=
      List.rel_append (List.forall₂_same.mpr fun _ _ => .refl)
        (.cons hc (List.forall₂_same.mpr fun _ _ => .refl))
    exact derives_settledRules_iff.mpr
      (words_of_substituted hsteps (derives_settledRules_iff.mp hw) hword)
  · obtain ⟨i, r', -, rfl⟩ := mem_settledRules_iff.mp hr
    rw [settledRule_starting, settledRule_ending]
    exact ⟨fun ht => mem_startingSets_of_substituted hp.linked hsteps ht hc,
      fun ht hne => mem_endingSets_of_substituted hp.linked hsteps ht hne hc⟩

/-- As `enumerationTokens`, with a number that can stand for a word and a semicolon
that can stand for a comma. -/
def variedTokens : TokenTable where
  tokens := enumerationTokens.tokens ++
    [(TokenDecl.named "number").withLiterals ["1"] |>.childOf 1 .substitutable,
      (TokenDecl.named "semicolon").withLiterals [";"] |>.childOf 2 .substitutable]
  roles := enumerationTokens.roles

/-- The grammar of varied enumerations, compiled. -/
def variedGrammar : Grammar where
  tokens := variedTokens
  kinds := enumeration.kinds
  start := 0
  endOfStream := 0
  ranks := ⟨[(0, 0), (1, 0)], [(⟨0, 0⟩, [5]), (⟨1, 0⟩, [6])]⟩
  rules := [⟨5, ⟨0, 0⟩, .declared "enumeration" 0, [.nonTerminal [7, 8]], [true], [1, 3], [0]⟩,
    ⟨6, ⟨1, 0⟩, .declared "item" 1, [.terminal [1, 3]], [true], [1, 3], [0, 2, 4]⟩,
    ⟨7, ⟨1, 0⟩, .listLast, [.nonTerminal [6]], [], [1, 3], [0]⟩,
    ⟨8, ⟨1, 0⟩, .listMore, [.nonTerminal [6], .terminal [2, 4], .nonTerminal [7, 8]], [], [1, 3],
      [0]⟩]
  substitutes := [(1, [3]), (2, [4])]
  initial := [5]

/-- Two words with a comma between them are an enumeration. -/
theorem words_varied : Words variedGrammar.rules 5 [1, 2, 1] := by
  have hclosed := closed_words variedGrammar.rules
  have hitem : Words variedGrammar.rules 6 [1] :=
    hclosed variedGrammar.rules[1] (by decide) [1] ⟨[1], [], rfl, ⟨1, by decide, rfl⟩, rfl⟩
  have hlast : Words variedGrammar.rules 7 [1] :=
    hclosed variedGrammar.rules[2] (by decide) [1] ⟨[1], [], rfl, ⟨6, by decide, hitem⟩, rfl⟩
  have hmore : Words variedGrammar.rules 8 [1, 2, 1] :=
    hclosed variedGrammar.rules[3] (by decide) [1, 2, 1]
      ⟨[1], [2, 1], rfl, ⟨6, by decide, hitem⟩, [2], [1], rfl, ⟨2, by decide, rfl⟩,
        [1], [], rfl, ⟨7, by decide, hlast⟩, rfl⟩
  exact hclosed variedGrammar.rules[0] (by decide) [1, 2, 1]
    ⟨[1, 2, 1], [], rfl, ⟨8, by decide, hmore⟩, rfl⟩

/-- They are one with a semicolon, too. A semicolon can follow an item, as a comma
can. -/
theorem semicolon_stands_in :
    (compile .default variedTokens enumeration "enumeration").outcome = .ok variedGrammar ∧
      variedTokens.CanStandFor 2 4 ∧ Words variedGrammar.rules 5 [1, 4, 1] ∧
      ∃ r ∈ variedGrammar.rules, r.id = 6 ∧ 2 ∈ r.ending ∧ 4 ∈ r.ending := by
  have hcompile : (compile .default variedTokens enumeration "enumeration").outcome =
      .ok variedGrammar := by cbv
  have hstand : variedTokens.CanStandFor 2 4 := .single ⟨_, rfl, rfl⟩
  have hall : variedGrammar.rules[0] ∈ variedGrammar.rules := List.getElem_mem _
  have hitem : variedGrammar.rules[1] ∈ variedGrammar.rules := List.getElem_mem _
  obtain ⟨hwords, -, -⟩ := substitutes_stand_in hcompile hall hstand
  obtain ⟨-, -, hending⟩ := substitutes_stand_in hcompile hitem hstand
  exact ⟨hcompile, hstand, hwords [1] [1] words_varied, _, hitem, rfl, by decide,
    hending (by decide) (by decide)⟩

end Compile
end GrammarKit
