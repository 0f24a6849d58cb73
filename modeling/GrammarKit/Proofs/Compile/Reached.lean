import GrammarKit.Proofs.Compile.Grammar
import GrammarKit.Proofs.Compile.Provenance
import Mathlib.Logic.Relation

/-!
# Rules for lists are in use

A rule is made for a list when a parameter needs it. So every such rule can be reached
from a declared one, by steps that choose rules (`Made.reached`).

The invariant goes with the steps made so far (`ListRules.Rooted`): each rule made for
a list can be reached from an alternative of one of these steps. A list that finds its
pair made by an earlier list adds at most a rule that its own step chooses; a list
that makes the pair has a step that leads to both rules (`step_reaches`).
-/
namespace GrammarKit

open Relation (ReflTransGen)

/-- Some step of the rule `q` can be the rule `q'`. -/
def Uses (rules : List Rule) (q q' : RuleId) : Prop :=
  ∃ r ∈ rules, r.id = q ∧ ∃ rs, Step.nonTerminal rs ∈ r.steps ∧ q' ∈ rs

/-- Token sets and further rules do not matter to what a rule leads to. -/
theorem reaches_mono {rules rules' : List Rule}
    (h : ∀ r ∈ rules, ∃ r' ∈ rules', r'.id = r.id ∧ r'.steps = r.steps) {q q' : RuleId}
    (hreach : ReflTransGen (Uses rules) q q') : ReflTransGen (Uses rules') q q' := by
  refine ReflTransGen.mono (fun a b huses => ?_) q q' hreach
  obtain ⟨r, hr, rfl, rs, hrs, hb⟩ := huses
  obtain ⟨r', hr', hid, hsteps⟩ := h r hr
  exact ⟨r', hr', hid, rs, by rwa [hsteps], hb⟩

namespace Compile

namespace ListRules

variable {s s' : ListRules} {l : ListPlan}

/-- The list rules lead from an alternative of the step to the rule. -/
def Reaches (s : ListRules) (st : Step) (id : RuleId) : Prop :=
  ∃ rs, st = .nonTerminal rs ∧ ∃ q ∈ rs, ReflTransGen (Uses s.rules) q id

theorem Reaches.mono (he : s.Extends s') {st : Step} {id : RuleId} (h : s.Reaches st id) :
    s'.Reaches st id := by
  obtain ⟨rs, hst, q, hq, hreach⟩ := h
  exact ⟨rs, hst, q, hq, reaches_mono (fun r hr => ⟨r, he.rules.subset hr, rfl, rfl⟩) hreach⟩

/-- An alternative of the step is reached. -/
theorem reaches_of_mem {rs : List RuleId} {id : RuleId} (h : id ∈ rs) :
    s.Reaches (.nonTerminal rs) id :=
  ⟨rs, rfl, id, h, .refl⟩

/-- What making a pair adds are its two rules, and the second one leads to the first. -/
theorem pair_adds (s : ListRules) (l : ListPlan) : ∀ r ∈ (s.pair l).2.1.rules, r ∈ s.rules ∨
    ((r.id = (s.pair l).1.1 ∨ r.id = (s.pair l).1.2) ∧
      Uses (s.pair l).2.1.rules (s.pair l).1.2 (s.pair l).1.1) := by
  rcases s.pair_cases l with ⟨p, -, heq⟩ | ⟨-, heq⟩
  · rw [heq]
    exact fun r hr => Or.inl hr
  · rw [heq]
    intro r hr
    have huses : Uses (s.withPair l).rules (s.next + 1) s.next := by
      obtain ⟨more, hmore, hid, hsteps⟩ := has_more_withPair s l
      refine ⟨more, hmore, hid, [s.next, s.next + 1], ?_, List.mem_cons_self⟩
      rw [hsteps]
      exact List.mem_append_right _ (List.mem_singleton.mpr rfl)
    have hr : r ∈ (s.withPair l).rules := hr
    rw [rules_withPair] at hr
    rcases List.mem_append.mp hr with hr | hr
    · exact Or.inl hr
    · refine Or.inr ⟨?_, huses⟩
      rcases List.mem_cons.mp hr with rfl | hr
      · exact Or.inl rfl
      · rw [List.mem_singleton.mp hr]
        exact Or.inr rfl

/-- The step of a list leads to every rule that is made for it. -/
theorem step_reaches (s : ListRules) (l : ListPlan) : ∀ r ∈ (s.step l).2.1.rules,
    r ∈ s.rules ∨ (s.step l).2.1.Reaches (s.step l).1 r.id := by
  have hpair := s.pair_adds l
  rcases Nat.lt_or_ge 2 l.min with hlong | hshort
  · obtain ⟨hst, hlists⟩ := s.step_of_long hlong
    rw [hst, hlists]
    generalize s.pair l = made at hpair ⊢
    obtain ⟨⟨last, more⟩, s', events⟩ := made
    dsimp only at hpair ⊢
    have hleading : ∀ q ∈ [last, more],
        Uses (s'.push l.ranked .listLeading (l.leadingSteps last more)).rules s'.next q := by
      intro q hq
      rw [rules_push]
      refine ⟨_, List.mem_append_right _ (List.mem_singleton.mpr rfl), rfl, [last, more], ?_, hq⟩
      exact List.mem_append_right _ (List.mem_singleton.mpr rfl)
    intro r hr
    rw [rules_push] at hr
    rcases List.mem_append.mp hr with hr | hr
    · rcases hpair r hr with hr | ⟨hid, -⟩
      · exact Or.inl hr
      · refine Or.inr ⟨[s'.next], rfl, s'.next, List.mem_singleton.mpr rfl, ?_⟩
        exact .single (hleading r.id (by simpa using hid))
    · rw [List.mem_singleton.mp hr]
      exact Or.inr (reaches_of_mem (List.mem_singleton.mpr rfl))
  · obtain ⟨hst, hlists⟩ := s.step_of_short hshort
    rw [hst, hlists]
    intro r hr
    rcases hpair r hr with hr | ⟨hid, huses⟩
    · exact Or.inl hr
    refine Or.inr ?_
    by_cases h1 : l.min ≤ 1
    · rw [if_pos h1]
      exact reaches_of_mem (by simpa using hid)
    · rw [if_neg h1]
      rcases hid with hid | hid
      · -- the step chooses the second rule of the pair, which leads to the first
        refine ⟨[(s.pair l).1.2], rfl, (s.pair l).1.2, List.mem_singleton.mpr rfl, ?_⟩
        rw [hid]
        exact .single huses
      · exact reaches_of_mem (by simpa using hid)

/-- Every rule is reached from one of the steps that were made. -/
def Rooted (made : List Step) (s : ListRules) : Prop :=
  ∀ r ∈ s.rules, ∃ st ∈ made, s.Reaches st r.id

/-- One more step keeps all rules reached. -/
theorem Rooted.step {cx : Context} {made : List Step} (h : Rooted made s) {rule : String}
    {p : Param Kind} {st : Step} (hstep : (cx.step rule p s).outcome = .ok (st, s')) :
    Rooted (made ++ [st]) s' := by
  have hold : s.Extends s' → ∀ r ∈ s.rules, ∃ st' ∈ made ++ [st], s'.Reaches st' r.id := by
    intro he r hr
    obtain ⟨st', hst', hreach⟩ := h r hr
    exact ⟨st', List.mem_append_left _ hst', hreach.mono he⟩
  rcases Context.step_cases hstep with ⟨-, -, -, -, rfl⟩ | ⟨-, -, -, -, -, rfl⟩ |
    ⟨-, -, -, -, l, -, -, rfl, rfl⟩
  · exact hold (.refl _)
  · exact hold (.refl _)
  · intro r hr
    rcases s.step_reaches l r hr with hr | hreach
    · exact hold (s.extends_step l) r hr
    · exact ⟨_, List.mem_append_right _ (List.mem_singleton.mpr rfl), hreach⟩

end ListRules

/-- **Rules for lists are in use.** A declared rule leads to each of them. -/
theorem Parts.Made.reached {p : Parts} {options : Options} {tokens : TokenTable} {d : Declaration}
    (hp : p.Made options tokens d) {r : Rule} (hr : r ∈ p.lists.rules) :
    ∃ r₀ ∈ p.declared, ReflTransGen (Uses p.rules) r₀.id r.id := by
  have hrooted : ListRules.Rooted ((p.declared.flatMap (·.uses d.rules)).map (·.2)) p.lists :=
    Context.rules_trace (P := fun made s => ListRules.Rooted (made.map (·.2)) s)
      (fun d _ q _ made s s' st h hstep => by rw [List.map_append]; exact h.step hstep)
      (by simp [ListRules.Rooted, ListRules.startingAt, ListRules.rules]) hp.rules_eq
  obtain ⟨st, hst, rs, rfl, q, hq, hreach⟩ := hrooted r hr
  obtain ⟨⟨param, st⟩, huse, rfl⟩ := List.mem_map.mp hst
  obtain ⟨r₀, hr₀, huse⟩ := List.mem_flatMap.mp huse
  have hst := r₀.mem_steps_of_mem_uses huse
  have hlists : ∀ r ∈ p.lists.rules, ∃ r' ∈ p.rules, r'.id = r.id ∧ r'.steps = r.steps :=
    fun r hr => ⟨r, List.mem_append_right _ hr, rfl, rfl⟩
  exact ⟨r₀, hr₀, .head ⟨r₀, List.mem_append_left _ hr₀, rfl, rs, hst, hq⟩
    (reaches_mono hlists hreach)⟩

end Compile
end GrammarKit
