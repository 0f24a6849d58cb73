import GrammarKit.Proofs.Compile.ListForms
import GrammarKit.Proofs.Compile.Reached

/-!
# Which lists share their rules

What a parameter becomes depends on its shape alone (`Context.accepted`), unless it is a
list of at least three elements: such a list is long, and every use of it gets a rule of its
own for the leading elements.

`ListRules.Apart` is the invariant, over the uses made so far. A new rule has an id that no
rule has had before, so the step of the next long list differs from all earlier ones.
-/
namespace GrammarKit

/-- A list whose leading elements are spelled out. -/
def Shape.isLong {κ : Type} : Shape κ → Bool
  | .list _ _ min _ => 3 ≤ min
  | _ => false

/-- A list of any length. -/
def Shape.isList {κ : Type} : Shape κ → Bool
  | .list _ _ _ _ => true
  | _ => false

theorem Shape.isList_of_isLong {κ : Type} {shape : Shape κ} (h : shape.isLong = true) :
    shape.isList = true := by
  cases shape with
  | terminal tokens optional => cases h
  | nonTerminal kind maxRank optional => cases h
  | list el cap min δ => rfl

/-- The steps of the long lists among some uses of parameters. -/
def longSteps (uses : List (Param Kind × Step)) : List Step :=
  (uses.filter (·.1.shape.isLong)).map (·.2)

theorem longSteps_append (uses uses' : List (Param Kind × Step)) :
    longSteps (uses ++ uses') = longSteps uses ++ longSteps uses' := by
  simp [longSteps]

theorem longSteps_singleton (p : Param Kind) (st : Step) :
    longSteps [(p, st)] = if p.shape.isLong then [st] else [] := by
  by_cases hp : p.shape.isLong <;> simp [longSteps, hp]

theorem mem_longSteps {uses : List (Param Kind × Step)} {p : Param Kind} {st : Step}
    (h : (p, st) ∈ uses) (hp : p.shape.isLong = true) : st ∈ longSteps uses :=
  List.mem_map.mpr ⟨(p, st), List.mem_filter.mpr ⟨h, hp⟩, rfl⟩

namespace Compile

variable {cx : Context} {base : RuleId}

/-- The step of every parameter that is no long list, by its shape. -/
def Context.accepted (cx : Context) (lists : ListRules) : Shape Kind → Step
  | .terminal tokens _ => .terminal (withDescendants tokens cx.substitutes)
  | .nonTerminal kind maxRank _ => .nonTerminal ((cx.ranks.rulesOfKind? kind maxRank).getD [])
  | .list element maxRank min delimiter =>
    match lists.pairs.get? ⟨element, maxRank, delimiter⟩ with
    | some (last, more) => .nonTerminal (if min ≤ 1 then [last, more] else [more])
    | none => .nonTerminal []

/-- Two parameters of one shape become the same step. -/
theorem Lowers.eq_accepted {lists : ListRules} {shape : Shape Kind} {st : Step}
    (h : Lowers cx lists shape st) (hshort : shape.isLong = false) :
    st = cx.accepted lists shape := by
  cases h with
  | terminal hne => rfl
  | nonTerminal hrs hne => rw [Context.accepted, hrs, Option.getD_some]
  | @list l st hl hst =>
    cases hst with
    | any hpair hmin => simp only [Context.accepted, hpair, if_pos hmin]
    | two hpair hmin =>
      have hmore : ¬ l.min ≤ 1 := by omega
      simp only [Context.accepted, hpair, if_neg hmore]
    | many hpair hmin hhas =>
      rw [Shape.isLong, decide_eq_false_iff_not] at hshort
      exact absurd hmin hshort

/-- The plan is that of a list parameter. -/
inductive Context.Plans (cx : Context) : Shape Kind → ListPlan → Prop where
  | list {rule param : String} {element : Kind} {maxRank : Option Nat} {min : Nat}
      {delimiter : Option Delimiter} {l : ListPlan} :
      cx.listPlan rule param element maxRank min delimiter = .ok l →
      Plans cx (.list element maxRank min delimiter) l

theorem Context.Plans.fits {shape : Shape Kind} {l : ListPlan} (h : cx.Plans shape l) :
    l.Fits cx := by
  obtain ⟨hl⟩ := h
  exact (listPlan_ok hl).1

/-- A list is planned, and its step is made by the plan. -/
theorem Context.exists_plan_of_list {lists lists' : ListRules} {rule : String} {p : Param Kind}
    {st : Step} (hp : p.shape.isList = true)
    (h : (cx.step rule p lists).outcome = .ok (st, lists')) :
    ∃ l : ListPlan, cx.Plans p.shape l ∧ st = (lists.step l).1 ∧ lists' = (lists.step l).2.1 := by
  obtain ⟨name, shape⟩ := p
  cases shape with
  | terminal tokens optional => cases hp
  | nonTerminal kind maxRank optional => cases hp
  | list el cap min δ =>
    unfold step at h
    cases hl : cx.listPlan rule name el cap min δ with
    | error e => simp [hl] at h
    | ok l =>
      simp only [hl, Except.ok.injEq, Prod.mk.injEq] at h
      exact ⟨l, .list hl, h.1.symm, h.2.symm⟩

theorem Context.exists_plan_of_long {lists lists' : ListRules} {rule : String} {p : Param Kind}
    {st : Step} (hp : p.shape.isLong = true)
    (h : (cx.step rule p lists).outcome = .ok (st, lists')) :
    ∃ l : ListPlan, l.Fits cx ∧ 3 ≤ l.min ∧ st = (lists.step l).1 ∧ lists' = (lists.step l).2.1 := by
  obtain ⟨l, hl, hst, hlists⟩ := exists_plan_of_list (Shape.isList_of_isLong hp) h
  refine ⟨l, hl.fits, ?_, hst, hlists⟩
  generalize p.shape = shape at hp hl
  obtain ⟨hl⟩ := hl
  rw [(listPlan_ok hl).2.2]
  exact of_decide_eq_true hp

namespace ListRules

variable {s s' : ListRules} {l : ListPlan}

/-- Every rule has an id below the next one. -/
theorem Sound.id_lt_next (hs : s.Sound cx base) {r : Rule} (hr : r ∈ s.rules) : r.id < s.next := by
  obtain ⟨i, hi⟩ := List.getElem?_of_mem hr
  obtain ⟨hlt, -⟩ := List.getElem?_eq_some_iff.mp hi
  rw [hs.id_eq i r hi, hs.next_eq]
  exact Nat.add_lt_add_left hlt base

/-- The long lists have rules of their own for their leading elements. -/
structure Apart (uses : List (Param Kind × Step)) (s : ListRules) : Prop where
  nodup : (longSteps uses).Nodup
  own : ∀ st ∈ longSteps uses, ∃ r ∈ s.rules, r.origin = .listLeading ∧ st = .nonTerminal [r.id]

theorem Apart.extend {uses : List (Param Kind × Step)} (h : Apart uses s) (he : s.Extends s')
    {p : Param Kind} (hp : p.shape.isLong = false) (st : Step) : Apart (uses ++ [(p, st)]) s' := by
  have hsame : longSteps (uses ++ [(p, st)]) = longSteps uses := by
    rw [longSteps_append, longSteps_singleton, hp]
    exact List.append_nil _
  refine ⟨hsame ▸ h.nodup, fun st hst => ?_⟩
  rw [hsame] at hst
  obtain ⟨r, hr, horigin, hst⟩ := h.own st hst
  exact ⟨r, he.rules.subset hr, horigin, hst⟩

/-- One more use. -/
theorem Apart.step {uses : List (Param Kind × Step)} (h : Apart uses s) (hs : s.Sound cx base)
    {rule : String} {p : Param Kind} {st : Step}
    (hstep : (cx.step rule p s).outcome = .ok (st, s')) : Apart (uses ++ [(p, st)]) s' := by
  obtain ⟨hgrow, -⟩ := Context.step_spec hs hstep
  cases hp : p.shape.isLong with
  | false => exact h.extend hgrow.ext hp st
  | true =>
    obtain ⟨l, hfits, hmin, rfl, rfl⟩ := Context.exists_plan_of_long hp hstep
    obtain ⟨hsound, hext, -⟩ := pair_spec hs hfits
    obtain ⟨hst, hlists⟩ := s.step_of_long hmin
    have hnew : longSteps (uses ++ [(p, (s.step l).1)]) =
        longSteps uses ++ [.nonTerminal [(s.pair l).2.1.next]] := by
      rw [longSteps_append, longSteps_singleton, hp, if_pos rfl, hst]
    -- the rules of the earlier uses have ids below the one of the new rule
    have hold : ∀ st ∈ longSteps uses, ∃ r ∈ (s.pair l).2.1.rules,
        r.origin = .listLeading ∧ st = .nonTerminal [r.id] ∧ r.id < (s.pair l).2.1.next := by
      intro st hst
      obtain ⟨r, hr, horigin, hst⟩ := h.own st hst
      have hr := hext.rules.subset hr
      exact ⟨r, hr, horigin, hst, hsound.id_lt_next hr⟩
    refine ⟨?_, fun st hmem => ?_⟩
    · rw [hnew]
      refine List.nodup_append.mpr ⟨h.nodup, List.nodup_singleton _, fun st hmem st' hmem' heq => ?_⟩
      obtain ⟨r, -, -, rfl, hlt⟩ := hold st hmem
      rw [List.mem_singleton.mp hmem'] at heq
      simp only [Step.nonTerminal.injEq, List.cons.injEq, and_true] at heq
      exact Nat.ne_of_lt hlt heq
    · rw [hlists, rules_push]
      rw [hnew] at hmem
      rcases List.mem_append.mp hmem with hmem | hmem
      · obtain ⟨r, hr, horigin, hst, -⟩ := hold st hmem
        exact ⟨r, List.mem_append_left _ hr, horigin, hst⟩
      · exact ⟨_, List.mem_append_right _ (List.mem_singleton_self _), rfl,
          List.mem_singleton.mp hmem⟩

end ListRules

/-- **Long lists.** Every use of a long list has a rule of its own. -/
theorem Parts.Made.apart {p : Parts} {options : Options} {tokens : TokenTable} {d : Declaration}
    (hp : p.Made options tokens d) :
    ListRules.Apart (p.declared.flatMap (·.uses d.rules)) p.lists := by
  refine (Context.rules_trace (P := fun uses s =>
    s.Sound (p.context tokens d) (tokens.size + p.numbering.variants.length) ∧
      ListRules.Apart uses s) (fun dcl _ q _ uses s s' st h hstep => ?_) ?_ hp.rules_eq).2
  · obtain ⟨hgrow, -⟩ := Context.step_spec h.1 hstep
    exact ⟨hgrow.sound, h.2.step h.1 hstep⟩
  · exact ⟨ListRules.sound_startingAt _ _, List.nodup_nil, nofun⟩

end Compile
end GrammarKit
