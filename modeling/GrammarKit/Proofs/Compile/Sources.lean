import GrammarKit.Proofs.Compile.Grammar
import GrammarKit.Proofs.Compile.Numbering
import GrammarKit.Proofs.Compile.Provenance
import GrammarKit.Proofs.Grammar.Blob

/-!
# The alternatives of steps

* `Made.nodup_sources`: no step of a compiled grammar has an alternative twice. The
  index lists every variant once, and the pair of rules of a list are two rules.
* `Made.tokens_lt`: terminals accept tokens of the table only, whether they are
  declared or made for the delimiter of a list.
* `Made.kind_lt`: rules produce kinds with a name. The elements of a list are
  produced by some declaration.

So the grammar hangs together (`Made.inconsistency?_eq_none`).
-/
namespace GrammarKit.Compile

/-- The rule for an element and the ones after it has more steps than the rule for the
last element. -/
theorem ListPlan.lastSteps_ne_moreSteps (l : ListPlan) (last more : RuleId) :
    l.lastSteps ≠ l.moreSteps last more := by
  have hlast : l.lastSteps.length ≤ l.itemSteps.length := by
    unfold lastSteps itemSteps
    split
    · exact Nat.le_refl _
    · simp
  intro heq
  have hlen := congrArg List.length heq
  rw [moreSteps, List.length_append, List.length_singleton] at hlen
  omega

namespace Parts.Good

variable {p : Parts} {tokens : TokenTable} {d : Declaration} (hp : p.Good tokens d)
include hp

/-- Rules with one id have the same steps. -/
theorem steps_eq_of_has {id : RuleId} {steps steps' : List Step} (h : p.lists.Has id steps)
    (h' : p.lists.Has id steps') : steps = steps' := by
  obtain ⟨r, hr, hid, rfl⟩ := h
  obtain ⟨r', hr', hid', rfl⟩ := h'
  have hmem := List.mem_append_right p.declared hr
  have hmem' := List.mem_append_right p.declared hr'
  rw [hp.linked.eq_of_id_eq hmem hmem' (hid.trans hid'.symm)]

theorem last_ne_more {key : ListKey} {last more : RuleId}
    (h : p.lists.pairs.get? key = some (last, more)) : last ≠ more := by
  obtain ⟨l, -, -, hlast, hmore⟩ := hp.sound.paired _ _ _ h
  rintro rfl
  exact l.lastSteps_ne_moreSteps _ _ (hp.steps_eq_of_has hlast hmore)

end Parts.Good

namespace Parts.Made

variable {p : Parts} {options : Options} {tokens : TokenTable} {d : Declaration}
  (hp : p.Made options tokens d)
include hp

theorem fresh : p.numbering.ranks.Fresh (tokens.size + p.numbering.variants.length) :=
  numberFrom_fresh (RankIndex.fresh_empty _) hp.numbering_eq

/-- **No alternative twice.** -/
theorem nodup_sources {r : Rule} (hr : r ∈ p.rules) : ∀ s ∈ r.steps, s.sources.Nodup := by
  intro s hs
  cases hp.good.stepForm hr s hs with
  | terminal hne => exact nodup_withDescendants _ _
  | kind hrs hne => exact RankIndex.nodup_rulesOfKind hp.fresh.nodup hrs
  | pair hpair =>
    have hne := hp.good.last_ne_more hpair
    simpa [Step.sources] using hne
  | single hhas => exact List.nodup_singleton _

/-- The rules made for lists have terminals over tokens of the table, and elements of a
kind that the index knows. -/
theorem rules_of_table :
    (∀ r ∈ p.lists.rules, (∀ s ∈ r.steps, s.TokensBelow tokens.size) ∧
      ∃ top, p.numbering.ranks.maxRank? r.ranked.kind = some top) ∧
    ∀ r ∈ p.declared, ∃ decl dcl,
      Context.Follows (Step.TokensBelow tokens.size) d.rules r decl dcl := by
  have hsubstitutes : (p.context tokens d).substitutes = (p.context tokens d).tokens.substitutes :=
    rfl
  refine Context.rules_keep (P := fun s => ∀ r ∈ s.rules, (∀ s ∈ r.steps,
    s.TokensBelow tokens.size) ∧ ∃ top, p.numbering.ranks.maxRank? r.ranked.kind = some top)
    (fun d hd q hq s s' st hs hstep => ?_) ?_ hp.rules_eq
  · rcases Context.step_cases hstep with ⟨ts, accepted, ha, rfl, rfl⟩ | ⟨k, cap, rs, hrs, rfl, rfl⟩ |
      ⟨el, cap, min, δ, l, -, hl, rfl, rfl⟩
    · exact ⟨hs, Context.lt_of_mem_terminal hsubstitutes ha⟩
    · exact ⟨hs, trivial⟩
    · obtain ⟨items, hitems, hranked, hitem⟩ := Context.listPlan_cases hl
      obtain ⟨hitems, -⟩ := Context.alternatives_ok hitems
      obtain ⟨top, htop, -⟩ := Option.map_eq_some_iff.mp hitems
      have hkind : ∃ top, p.numbering.ranks.maxRank? l.ranked.kind = some top :=
        ⟨top, by rw [hranked]; exact htop⟩
      have hbelow : ∀ s ∈ l.itemSteps, s.TokensBelow tokens.size := by
        intro s hs
        rcases hitem s hs with rfl | ⟨token, ts, hts, rfl⟩
        · trivial
        · exact Context.lt_of_mem_terminal hsubstitutes hts
      -- all three kinds of rules have steps of elements and a choice between the pair
      have hneeds : ∀ last more steps, l.Needs last more steps →
          ∀ s ∈ steps, s.TokensBelow tokens.size :=
        fun last more steps hn => hn.forall_mem hbelow trivial
      refine ⟨ListRules.forall_mem_step hs (fun id => ⟨?_, hkind⟩) (fun id last more => ⟨?_, hkind⟩)
        (fun id last more h3 => ⟨?_, hkind⟩), ?_⟩
      · exact hneeds 0 0 _ (Or.inl rfl)
      · exact hneeds last more _ (Or.inr (Or.inl rfl))
      · exact hneeds last more _ (Or.inr (Or.inr ⟨h3, rfl⟩))
      · obtain ⟨rs, hrs, -⟩ := s.step_sources l
        rw [hrs]
        trivial
  · simp [ListRules.startingAt, ListRules.rules]

/-- **Tokens of the table.** -/
theorem tokens_lt : ∀ r ∈ p.rules, ∀ s ∈ r.steps, s.TokensBelow tokens.size := by
  obtain ⟨hlists, hdeclared⟩ := hp.rules_of_table
  intro r hr
  rcases List.mem_append.mp hr with hr | hr
  · obtain ⟨decl, dcl, hf⟩ := hdeclared r hr
    exact hf.steps
  · exact (hlists r hr).1

/-- **Kinds with a name.** -/
theorem kind_lt (hd : ∀ r ∈ d.rules, r.produces < d.kinds.names.length) :
    ∀ r ∈ p.rules, r.ranked.kind < d.kinds.names.length := by
  obtain ⟨hlists, hdeclared⟩ := hp.rules_of_table
  intro r hr
  rcases List.mem_append.mp hr with hr | hr
  · obtain ⟨decl, dcl, hf⟩ := hdeclared r hr
    rw [hf.ranked]
    exact hd dcl (List.mem_of_getElem? hf.get)
  · obtain ⟨top, htop⟩ := (hlists r hr).2
    obtain ⟨dcl, hdcl, hkind⟩ := hp.numbered.exists_produces hp.fresh.peopled htop
    rw [← hkind]
    exact hd dcl hdcl

/-- Every rule has the id of its place and names tokens and rules that there are. -/
theorem placed {i : Nat} {r : Rule} (hr : p.rules[i]? = some r) :
    Grammar.Placed (tokens.size + i) (tokens.size + p.rules.length) r := by
  have hmem := List.mem_of_getElem? hr
  refine ⟨hp.good.id_eq hr, fun s hs e he => ?_⟩
  have hbelow := hp.tokens_lt r hmem s hs
  cases s with
  | terminal ts => exact Nat.lt_of_lt_of_le (hbelow e he) (Nat.le_add_right _ _)
  | nonTerminal rs => exact ((hp.good.within hmem _ hs).bounds rs rfl e he).2

/-- What is put together hangs together. -/
theorem inconsistency?_eq_none {start : Kind} {eos : TokenId} {initial : List RuleId}
    (heos : eos < tokens.size) :
    Grammar.inconsistency? ⟨tokens, d.kinds, start, eos, p.numbering.ranks,
      settledRules tokens.size eos p.rules, tokens.substitutes, initial⟩ = none := by
  have hcount : Grammar.entityCount ⟨tokens, d.kinds, start, eos, p.numbering.ranks,
      settledRules tokens.size eos p.rules, tokens.substitutes, initial⟩ =
        tokens.size + p.rules.length :=
    congrArg (tokens.size + ·) (length_settledRules _ _ _)
  rw [Grammar.inconsistency?_eq_none_iff, hcount]
  refine ⟨fun i r hr => ?_, heos⟩
  obtain ⟨r', hr', rfl⟩ := exists_of_getElem?_settledRules hr
  have hplaced := hp.placed hr'
  refine ⟨?_, ?_⟩
  · rw [settledRule_id]
    exact hplaced.id_eq
  · rw [settledRule_steps]
    exact hplaced.sources_lt

end Parts.Made
end GrammarKit.Compile
