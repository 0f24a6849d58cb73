import GrammarKit.Compile.VariantRules
import GrammarKit.Proofs.Token.Descendants

/-!
# The rules made for lists

What holds of the rules made for lists while a grammar is compiled (`Sound`):
every rule is one that some list needs, and every pair on record is there, with
the steps that all lists of its key share.

* `pair_spec`, `step_spec`: making the rules of one more list keeps this, and
  only adds to what was there (`Extends`).
* `step_of_short`, `step_of_long`: what making the step of a list does after its
  pair is known.
* `ListStep`: the step that stands for a list, by the minimum of the list. It
  stays what it is when rules are added (`ListStep.mono`).
-/
namespace GrammarKit.Compile

namespace ListPlan

/-- The steps of the rule for an element and the ones after it. -/
def moreSteps (l : ListPlan) (last more : RuleId) : List Step :=
  l.itemSteps ++ [.nonTerminal [last, more]]

/-- The steps of the rule for a list with a minimum. -/
def leadingSteps (l : ListPlan) (last more : RuleId) : List Step :=
  (List.replicate (l.min - 1) l.itemSteps).flatten ++ [.nonTerminal [last, more]]

/-- The alternatives are those that the key stands for. -/
structure Fits (cx : Context) (l : ListPlan) : Prop where
  items_eq : cx.ranks.rulesOfKind? l.key.element l.key.maxRank = some l.items
  items_ne : l.items ≠ []
  delimiter_eq : l.delimiter =
    l.key.delimiter.map fun d => withDescendants [d.token] cx.substitutes

variable {cx : Context} {l l' : ListPlan}

/-- Lists with one key have the same elements. -/
theorem Fits.items_eq_of_key (h : l.Fits cx) (h' : l'.Fits cx) (hk : l.key = l'.key) :
    l.items = l'.items := by
  have := h.items_eq
  rw [hk, h'.items_eq] at this
  exact (Option.some.inj this).symm

/-- Lists with one key have the same delimiters. -/
theorem Fits.delimiterSteps_eq_of_key (h : l.Fits cx) (h' : l'.Fits cx) (hk : l.key = l'.key) :
    l.delimiterSteps = l'.delimiterSteps := by
  rw [delimiterSteps, delimiterSteps, h.delimiter_eq, h'.delimiter_eq, hk]

theorem Fits.lastSteps_eq_of_key (h : l.Fits cx) (h' : l'.Fits cx) (hk : l.key = l'.key) :
    l.lastSteps = l'.lastSteps := by
  rw [lastSteps, lastSteps, endsDelimited, endsDelimited, h.items_eq_of_key h' hk,
    h.delimiterSteps_eq_of_key h' hk, hk]

theorem Fits.moreSteps_eq_of_key (h : l.Fits cx) (h' : l'.Fits cx) (hk : l.key = l'.key)
    (last more : RuleId) : l.moreSteps last more = l'.moreSteps last more := by
  rw [moreSteps, moreSteps, itemSteps, itemSteps, h.items_eq_of_key h' hk,
    h.delimiterSteps_eq_of_key h' hk]

/-- The steps are those of a rule that the list needs. -/
def Needs (l : ListPlan) (last more : RuleId) (steps : List Step) : Prop :=
  steps = l.lastSteps ∨ steps = l.moreSteps last more ∨
    (3 ≤ l.min ∧ steps = l.leadingSteps last more)

theorem lastSteps_subset (l : ListPlan) : l.lastSteps ⊆ l.itemSteps := by
  unfold lastSteps itemSteps
  split
  · exact fun _ hs => hs
  · intro s hs
    rw [List.mem_singleton.mp hs]
    exact List.mem_cons_self

section Needs

variable {last more : RuleId} {steps : List Step} (hn : l.Needs last more steps)
include hn

/-- What holds of the steps of an element and of a choice between the pair holds
of all steps. -/
theorem Needs.forall_mem {P : Step → Prop} (hitem : ∀ s ∈ l.itemSteps, P s)
    (hpair : P (.nonTerminal [last, more])) : ∀ s ∈ steps, P s := by
  intro s hs
  rcases hn with rfl | rfl | ⟨-, rfl⟩
  · exact hitem s (l.lastSteps_subset hs)
  · rcases List.mem_append.mp hs with hs | hs
    · exact hitem s hs
    · rw [List.mem_singleton.mp hs]
      exact hpair
  · rcases List.mem_append.mp hs with hs | hs
    · obtain ⟨steps, hsteps, hs⟩ := List.mem_flatten.mp hs
      rw [(List.mem_replicate.mp hsteps).2] at hs
      exact hitem s hs
    · rw [List.mem_singleton.mp hs]
      exact hpair

theorem Needs.length_le : steps.length ≤ 2 * l.min + 3 := by
  have hdelimiter : l.delimiterSteps.length ≤ 1 := by
    unfold delimiterSteps
    cases l.delimiter with
    | none => exact Nat.zero_le 1
    | some ts => exact Nat.le_refl 1
  have hitem : l.itemSteps.length ≤ 2 := Nat.succ_le_succ hdelimiter
  rcases hn with rfl | rfl | ⟨-, rfl⟩
  · unfold lastSteps
    split
    · exact Nat.le_trans hitem (by omega)
    · exact Nat.le_add_left 1 _
  · rw [moreSteps, List.length_append, List.length_singleton]
    omega
  · rw [leadingSteps, List.length_append, List.length_flatten, List.map_replicate,
      List.sum_replicate_nat, List.length_singleton]
    have hlead := Nat.mul_le_mul_left (l.min - 1) hitem
    omega

end Needs

end ListPlan

namespace ListRules

variable {cx : Context} {base : RuleId} {s s' s'' : ListRules} {l : ListPlan}

/-- Some rule has this id and these steps. -/
def Has (s : ListRules) (id : RuleId) (steps : List Step) : Prop :=
  ∃ r ∈ s.rules, r.id = id ∧ r.steps = steps

/-- The later rules keep what the earlier ones have. -/
structure Extends (s s' : ListRules) : Prop where
  pairs : ∀ key p, s.pairs.get? key = some p → s'.pairs.get? key = some p
  rules : s.rules <+: s'.rules

theorem Extends.refl (s : ListRules) : s.Extends s := ⟨fun _ _ h => h, List.prefix_refl _⟩

theorem Extends.trans (h : s.Extends s') (h' : s'.Extends s'') : s.Extends s'' :=
  ⟨fun key p hp => h'.pairs key p (h.pairs key p hp), h.rules.trans h'.rules⟩

theorem Has.mono {id : RuleId} {steps : List Step} (he : s.Extends s') (h : s.Has id steps) :
    s'.Has id steps := by
  obtain ⟨r, hr, hid⟩ := h
  exact ⟨r, he.rules.subset hr, hid⟩

/-- The rules are what the lists so far need, with ids from `base` on. -/
structure Sound (cx : Context) (base : RuleId) (s : ListRules) : Prop where
  next_eq : s.next = base + s.rules.length
  id_eq : ∀ i r, s.rules[i]? = some r → r.id = base + i
  paired : ∀ key last more, s.pairs.get? key = some (last, more) →
    ∃ l : ListPlan, l.Fits cx ∧ l.key = key ∧ s.Has last l.lastSteps ∧
      s.Has more (l.moreSteps last more)
  made : ∀ r ∈ s.rules, ∃ (l : ListPlan) (last more : RuleId), l.Fits cx ∧
    s.pairs.get? l.key = some (last, more) ∧ l.Needs last more r.steps

theorem sound_startingAt (cx : Context) (base : RuleId) : (startingAt base).Sound cx base :=
  ⟨rfl, by simp [startingAt, rules], by simp [startingAt, Assoc.get?],
    by simp [startingAt, rules]⟩

/-! ## Adding rules -/

theorem rules_push (s : ListRules) (ranked : RankedType) (origin : Origin) (steps : List Step) :
    (s.push ranked origin steps).rules =
      s.rules ++ [⟨s.next, ranked, origin, steps, [], [], []⟩] := by
  simp [push, rules]

/-- A pushed rule has the next id. -/
theorem Sound.id_eq_push (hs : s.Sound cx base) (ranked : RankedType) (origin : Origin)
    (steps : List Step) {i : Nat} {r : Rule}
    (hr : (s.push ranked origin steps).rules[i]? = some r) : r.id = base + i := by
  rw [rules_push] at hr
  rcases Nat.lt_or_ge i s.rules.length with hi | hi
  · rw [List.getElem?_append_left hi] at hr
    exact hs.id_eq i r hr
  · rw [List.getElem?_append_right hi, List.getElem?_singleton] at hr
    split at hr
    · cases hr
      have := hs.next_eq
      grind
    · cases hr

theorem extends_push (s : ListRules) (ranked : RankedType) (origin : Origin)
    (steps : List Step) : s.Extends (s.push ranked origin steps) :=
  ⟨fun _ _ h => h, by rw [rules_push]; exact List.prefix_append _ _⟩

/-- A rule that a list with a known pair needs may be added. -/
theorem Sound.push (hs : s.Sound cx base) {last more : RuleId} (hl : l.Fits cx)
    (hp : s.pairs.get? l.key = some (last, more)) {ranked : RankedType} {origin : Origin}
    {steps : List Step} (hn : l.Needs last more steps) :
    (s.push ranked origin steps).Sound cx base := by
  have hmono := s.extends_push ranked origin steps
  refine ⟨?_, fun i r hr => hs.id_eq_push ranked origin steps hr, ?_, ?_⟩
  · have := hs.next_eq
    rw [rules_push, List.length_append]
    show s.next + 1 = _
    grind
  · intro key last more h
    obtain ⟨l', hl', hk, h1, h2⟩ := hs.paired key last more h
    exact ⟨l', hl', hk, h1.mono hmono, h2.mono hmono⟩
  · intro r hr
    rw [rules_push] at hr
    rcases List.mem_append.mp hr with hr | hr
    · exact hs.made r hr
    · cases List.mem_singleton.mp hr
      exact ⟨l, last, more, hl, hp, hn⟩

/-- The state after the pair of a new key was made. -/
def withPair (s : ListRules) (l : ListPlan) : ListRules :=
  (({ s with pairs := s.pairs.put l.key (s.next, s.next + 1) } : ListRules).push
    l.ranked .listLast l.lastSteps).push l.ranked .listMore (l.moreSteps s.next (s.next + 1))

theorem rules_withPair (s : ListRules) (l : ListPlan) :
    (s.withPair l).rules = s.rules ++
      [⟨s.next, l.ranked, .listLast, l.lastSteps, [], [], []⟩,
        ⟨s.next + 1, l.ranked, .listMore, l.moreSteps s.next (s.next + 1), [], [], []⟩] := by
  simp [withPair, rules, ListRules.push]

theorem get?_pairs_withPair (s : ListRules) (l : ListPlan) (key : ListKey) :
    (s.withPair l).pairs.get? key =
      if key = l.key then some (s.next, s.next + 1) else s.pairs.get? key :=
  Assoc.get?_put _ _ _ _

theorem has_last_withPair (s : ListRules) (l : ListPlan) :
    (s.withPair l).Has s.next l.lastSteps :=
  ⟨⟨s.next, l.ranked, .listLast, l.lastSteps, [], [], []⟩, by simp [rules_withPair], rfl, rfl⟩

theorem has_more_withPair (s : ListRules) (l : ListPlan) :
    (s.withPair l).Has (s.next + 1) (l.moreSteps s.next (s.next + 1)) :=
  ⟨⟨s.next + 1, l.ranked, .listMore, l.moreSteps s.next (s.next + 1), [], [], []⟩,
    by simp [rules_withPair], rfl, rfl⟩

theorem extends_withPair (hnew : s.pairs.get? l.key = none) : s.Extends (s.withPair l) := by
  refine ⟨?_, by rw [rules_withPair]; exact List.prefix_append _ _⟩
  intro key p h
  rw [get?_pairs_withPair]
  split
  · next hk => rw [hk, hnew] at h; cases h
  · exact h

theorem sound_withPair (hs : s.Sound cx base) (hl : l.Fits cx)
    (hnew : s.pairs.get? l.key = none) : (s.withPair l).Sound cx base := by
  have hext := extends_withPair hnew
  refine ⟨?_, ?_, ?_, ?_⟩
  · have := hs.next_eq
    rw [rules_withPair, List.length_append]
    show s.next + 1 + 1 = _
    grind
  · intro i r hr
    have := hs.next_eq
    have := hs.id_eq i r
    rw [rules_withPair] at hr
    grind
  · intro key last more h
    rw [get?_pairs_withPair] at h
    split at h
    · next hk =>
      cases h
      exact ⟨l, hl, hk.symm, has_last_withPair s l, has_more_withPair s l⟩
    · obtain ⟨l', hl', hk', h1, h2⟩ := hs.paired key last more h
      exact ⟨l', hl', hk', h1.mono hext, h2.mono hext⟩
  · intro r hr
    rw [rules_withPair] at hr
    rcases List.mem_append.mp hr with hr | hr
    · obtain ⟨l', last, more, hl', hp, hn⟩ := hs.made r hr
      exact ⟨l', last, more, hl', hext.pairs _ _ hp, hn⟩
    · refine ⟨l, s.next, s.next + 1, hl, by rw [get?_pairs_withPair, if_pos rfl], ?_⟩
      rcases List.mem_cons.mp hr with rfl | hr
      · exact Or.inl rfl
      · cases List.mem_singleton.mp hr
        exact Or.inr (Or.inl rfl)

/-- A list finds the pair of its key, or makes it. -/
theorem pair_cases (s : ListRules) (l : ListPlan) :
    (∃ p, s.pairs.get? l.key = some p ∧ s.pair l = (p, s, [])) ∨
      (s.pairs.get? l.key = none ∧ s.pair l =
        ((s.next, s.next + 1), s.withPair l, [.loop l.ranked s.next (s.next + 1)])) := by
  cases hp : s.pairs.get? l.key with
  | some p => exact Or.inl ⟨p, rfl, by simp only [pair, hp]⟩
  | none =>
    refine Or.inr ⟨rfl, ?_⟩
    simp only [pair, hp]
    rfl

theorem extends_pair (s : ListRules) (l : ListPlan) : s.Extends (s.pair l).2.1 := by
  rcases s.pair_cases l with ⟨p, -, heq⟩ | ⟨hp, heq⟩
  · rw [heq]
    exact .refl s
  · rw [heq]
    exact extends_withPair hp

/-- The pair of a list is on record afterwards. -/
theorem pair_spec (hs : s.Sound cx base) (hl : l.Fits cx) :
    (s.pair l).2.1.Sound cx base ∧ s.Extends (s.pair l).2.1 ∧
      (s.pair l).2.1.pairs.get? l.key = some (s.pair l).1 := by
  rcases s.pair_cases l with ⟨p, hp, heq⟩ | ⟨hp, heq⟩
  · rw [heq]
    exact ⟨hs, .refl s, hp⟩
  · rw [heq]
    refine ⟨sound_withPair hs hl hp, extends_withPair hp, ?_⟩
    rw [get?_pairs_withPair, if_pos rfl]

/-! ## The step of a list -/

/-- The step stands for lists of the plan. -/
inductive ListStep (s : ListRules) (l : ListPlan) : Step → Prop where
  | any {last more : RuleId} : s.pairs.get? l.key = some (last, more) → l.min ≤ 1 →
      ListStep s l (.nonTerminal [last, more])
  | two {last more : RuleId} : s.pairs.get? l.key = some (last, more) → l.min = 2 →
      ListStep s l (.nonTerminal [more])
  | many {last more id : RuleId} : s.pairs.get? l.key = some (last, more) → 3 ≤ l.min →
      s.Has id (l.leadingSteps last more) → ListStep s l (.nonTerminal [id])

theorem ListStep.mono {st : Step} (he : s.Extends s') (h : s.ListStep l st) :
    s'.ListStep l st := by
  cases h with
  | any hp hm => exact .any (he.pairs _ _ hp) hm
  | two hp hm => exact .two (he.pairs _ _ hp) hm
  | many hp hm hh => exact .many (he.pairs _ _ hp) hm (hh.mono he)

/-- The step of a short list chooses between the rules of its pair. -/
theorem step_of_short (s : ListRules) (h : l.min ≤ 2) :
    (s.step l).1 = .nonTerminal
        (if l.min ≤ 1 then [(s.pair l).1.1, (s.pair l).1.2] else [(s.pair l).1.2]) ∧
      (s.step l).2.1 = (s.pair l).2.1 := by
  unfold step
  dsimp only
  by_cases h1 : l.min ≤ 1
  · rw [if_pos h1, if_pos h1]
    exact ⟨rfl, rfl⟩
  · have h2 : l.min = 2 := by omega
    rw [if_neg h1, if_neg h1, if_pos h2]
    exact ⟨rfl, rfl⟩

/-- The step of a long list chooses the one rule that is made for it. -/
theorem step_of_long (s : ListRules) (h : 3 ≤ l.min) :
    (s.step l).1 = .nonTerminal [(s.pair l).2.1.next] ∧
      (s.step l).2.1 = (s.pair l).2.1.push l.ranked .listLeading
        (l.leadingSteps (s.pair l).1.1 (s.pair l).1.2) := by
  have h1 : ¬ l.min ≤ 1 := by omega
  have h2 : ¬ l.min = 2 := by omega
  unfold step
  dsimp only
  rw [if_neg h1, if_neg h2]
  exact ⟨rfl, rfl⟩

/-- The step of a list is a choice between at most two rules. -/
theorem step_sources (s : ListRules) (l : ListPlan) :
    ∃ rs, (s.step l).1 = .nonTerminal rs ∧ rs.length ≤ 2 := by
  rcases Nat.lt_or_ge 2 l.min with hlong | hshort
  · exact ⟨_, (s.step_of_long hlong).1, Nat.le_succ 1⟩
  · refine ⟨_, (s.step_of_short hshort).1, ?_⟩
    split
    · exact Nat.le_refl 2
    · exact Nat.le_succ 1

theorem extends_step (s : ListRules) (l : ListPlan) : s.Extends (s.step l).2.1 := by
  rcases Nat.lt_or_ge 2 l.min with hlong | hshort
  · rw [(s.step_of_long hlong).2]
    exact (s.extends_pair l).trans (extends_push _ _ _ _)
  · rw [(s.step_of_short hshort).2]
    exact s.extends_pair l

/-- A list parameter becomes a step that stands for its lists. -/
theorem step_spec (hs : s.Sound cx base) (hl : l.Fits cx) :
    (s.step l).2.1.Sound cx base ∧ s.Extends (s.step l).2.1 ∧
      (s.step l).2.1.ListStep l (s.step l).1 := by
  obtain ⟨hsound, -, hpair⟩ := pair_spec hs hl
  have hext := s.extends_step l
  rcases Nat.lt_or_ge 2 l.min with hlong | hshort
  · obtain ⟨hst, hlists⟩ := s.step_of_long hlong
    rw [hlists] at hext ⊢
    rw [hst]
    have hadd := (s.pair l).2.1.extends_push l.ranked .listLeading
      (l.leadingSteps (s.pair l).1.1 (s.pair l).1.2)
    refine ⟨hsound.push hl hpair (Or.inr (Or.inr ⟨hlong, rfl⟩)), hext, ?_⟩
    refine .many (hadd.pairs _ _ hpair) hlong ⟨⟨(s.pair l).2.1.next, l.ranked, .listLeading,
      l.leadingSteps (s.pair l).1.1 (s.pair l).1.2, [], [], []⟩, ?_, rfl, rfl⟩
    rw [rules_push]
    exact List.mem_append_right _ (List.mem_singleton.mpr rfl)
  · obtain ⟨hst, hlists⟩ := s.step_of_short hshort
    rw [hlists] at hext ⊢
    rw [hst]
    refine ⟨hsound, hext, ?_⟩
    by_cases h1 : l.min ≤ 1
    · rw [if_pos h1]
      exact .any hpair h1
    · rw [if_neg h1]
      exact .two hpair (by omega)

end ListRules
end GrammarKit.Compile
