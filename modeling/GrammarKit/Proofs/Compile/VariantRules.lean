import GrammarKit.Proofs.Compile.ListRules
import GrammarKit.Proofs.Compile.Variant

/-!
# What the rules of variants look like

`Lowers` says which step stands for a parameter, `LowersAll` which steps stand
for the parameters that a variant keeps. If compiling the variants succeeds,
every variant has a rule with such steps (`rules_spec`).

Rules for lists are made on the way. What an earlier step refers to stays, so
everything is stated for the list rules at the end.
-/
namespace GrammarKit.Compile

variable {cx : Context} {base : RuleId} {lists lists' : ListRules}

/-- The step stands for what a parameter accepts. -/
inductive Lowers (cx : Context) (lists : ListRules) : Shape Kind → Step → Prop where
  | terminal {tokens : List TokenId} {optional : Bool} : tokens ≠ [] →
      Lowers cx lists (.terminal tokens optional)
        (.terminal (withDescendants tokens cx.substitutes))
  | nonTerminal {kind : Kind} {maxRank : Option Nat} {optional : Bool} {rules : List RuleId} :
      cx.ranks.rulesOfKind? kind maxRank = some rules → rules ≠ [] →
      Lowers cx lists (.nonTerminal kind maxRank optional) (.nonTerminal rules)
  | list {l : ListPlan} {st : Step} : l.Fits cx → lists.ListStep l st →
      Lowers cx lists (.list l.key.element l.key.maxRank l.min l.key.delimiter) st

/-- The steps stand for the parameters that are kept. The lowest bit of `kept`
decides about the next optional parameter. -/
inductive LowersAll (cx : Context) (lists : ListRules) :
    (kept : Nat) → List (Param Kind) → List Step → Prop where
  | nil {kept : Nat} : LowersAll cx lists kept [] []
  | required {kept : Nat} {p : Param Kind} {ps : List (Param Kind)} {st : Step} {sts : List Step} :
      p.shape.isOptional = false → Lowers cx lists p.shape st → LowersAll cx lists kept ps sts →
      LowersAll cx lists kept (p :: ps) (st :: sts)
  | present {kept : Nat} {p : Param Kind} {ps : List (Param Kind)} {st : Step} {sts : List Step} :
      p.shape.isOptional = true → kept % 2 = 1 → Lowers cx lists p.shape st →
      LowersAll cx lists (kept / 2) ps sts → LowersAll cx lists kept (p :: ps) (st :: sts)
  | omitted {kept : Nat} {p : Param Kind} {ps : List (Param Kind)} {sts : List Step} :
      p.shape.isOptional = true → kept % 2 = 0 → LowersAll cx lists (kept / 2) ps sts →
      LowersAll cx lists kept (p :: ps) sts

theorem Lowers.mono {shape : Shape Kind} {st : Step} (he : lists.Extends lists')
    (h : Lowers cx lists shape st) : Lowers cx lists' shape st := by
  cases h with
  | terminal ht => exact .terminal ht
  | nonTerminal hr hne => exact .nonTerminal hr hne
  | list hl hst => exact .list hl (hst.mono he)

theorem LowersAll.mono {kept : Nat} {ps : List (Param Kind)} {sts : List Step}
    (he : lists.Extends lists') (h : LowersAll cx lists kept ps sts) :
    LowersAll cx lists' kept ps sts := by
  induction h with
  | nil => exact .nil
  | required ho hl _ ih => exact .required ho (hl.mono he) ih
  | present ho hk hl _ ih => exact .present ho hk (hl.mono he) ih
  | omitted ho hk _ ih => exact .omitted ho hk ih

namespace Context

/-! ## One parameter -/

theorem terminal_ok {rule param : String} {tokens accepted : List TokenId}
    (h : cx.terminal rule param tokens = .ok accepted) :
    tokens ≠ [] ∧ accepted = withDescendants tokens cx.substitutes := by
  unfold terminal at h
  split at h
  · cases h
  · next hne =>
    split at h
    · cases h
    · exact ⟨by simpa using hne, (Except.ok.inj h).symm⟩

theorem alternatives_ok {rule param : String} {kind : Kind} {maxRank : Option Nat}
    {rules : List RuleId} (h : cx.alternatives rule param kind maxRank = .ok rules) :
    cx.ranks.rulesOfKind? kind maxRank = some rules ∧ rules ≠ [] := by
  unfold alternatives at h
  dsimp only at h
  split at h
  · cases h
  · cases h
  · next rs hrs hne =>
    cases h
    exact ⟨hne, fun hnil => by grind⟩

theorem listPlan_ok {rule param : String} {element : Kind} {maxRank : Option Nat} {min : Nat}
    {delimiter : Option Delimiter} {l : ListPlan}
    (h : cx.listPlan rule param element maxRank min delimiter = .ok l) :
    l.Fits cx ∧ l.key = ⟨element, maxRank, delimiter⟩ ∧ l.min = min := by
  unfold listPlan at h
  cases hi : cx.alternatives rule param element maxRank with
  | error e => simp [hi, bind, Except.bind] at h
  | ok items =>
    obtain ⟨hitems, hne⟩ := alternatives_ok hi
    cases delimiter with
    | none =>
      simp [hi, bind, Except.bind, pure, Except.pure] at h
      subst h
      exact ⟨⟨hitems, hne, rfl⟩, rfl, rfl⟩
    | some d =>
      cases ht : cx.terminal rule param [d.token] with
      | error e => simp [hi, ht, bind, Except.bind, Functor.map, Except.map] at h
      | ok tokens =>
        simp [hi, ht, bind, Except.bind, pure, Except.pure, Functor.map, Except.map] at h
        subst h
        exact ⟨⟨hitems, hne, by simp [(terminal_ok ht).2]⟩, rfl, rfl⟩

/-- What compiling with list rules `lists` gives: sound list rules, nothing lost. -/
structure Grows (cx : Context) (base : RuleId) (lists lists' : ListRules) : Prop where
  sound : lists'.Sound cx base
  ext : lists.Extends lists'

theorem Grows.refl (hs : lists.Sound cx base) : Grows cx base lists lists := ⟨hs, .refl lists⟩

theorem Grows.trans {lists'' : ListRules} (h : Grows cx base lists lists')
    (h' : Grows cx base lists' lists'') : Grows cx base lists lists'' :=
  ⟨h'.sound, h.ext.trans h'.ext⟩

/-- A parameter becomes a step that stands for it. -/
theorem step_spec (hs : lists.Sound cx base) {rule : String} {p : Param Kind} {st : Step}
    (h : (cx.step rule p lists).outcome = .ok (st, lists')) :
    Grows cx base lists lists' ∧ Lowers cx lists' p.shape st := by
  obtain ⟨name, shape⟩ := p
  unfold step at h
  cases shape with
  | terminal tokens optional =>
    cases ht : cx.terminal rule name tokens with
    | error e => simp [ht, Except.map] at h
    | ok ts =>
      obtain ⟨hne, rfl⟩ := terminal_ok ht
      simp only [ht, Except.map, Except.ok.injEq, Prod.mk.injEq] at h
      obtain ⟨rfl, rfl⟩ := h
      exact ⟨.refl hs, .terminal hne⟩
  | nonTerminal kind maxRank optional =>
    cases ha : cx.alternatives rule name kind maxRank with
    | error e => simp [ha, Except.map] at h
    | ok rs =>
      obtain ⟨hrs, hne⟩ := alternatives_ok ha
      simp only [ha, Except.map, Except.ok.injEq, Prod.mk.injEq] at h
      obtain ⟨rfl, rfl⟩ := h
      exact ⟨.refl hs, .nonTerminal hrs hne⟩
  | list element maxRank min delimiter =>
    cases hp : cx.listPlan rule name element maxRank min delimiter with
    | error e => simp [hp] at h
    | ok l =>
      obtain ⟨hfits, hkey, hmin⟩ := listPlan_ok hp
      obtain ⟨hsound, hext, hstep⟩ := ListRules.step_spec hs hfits
      simp only [hp, Except.ok.injEq, Prod.mk.injEq] at h
      obtain ⟨rfl, rfl⟩ := h
      have := Lowers.list hfits hstep
      rw [hkey, hmin] at this
      exact ⟨⟨hsound, hext⟩, this⟩

/-! ## One variant -/

/-- The parameters that a variant keeps become steps that stand for them. -/
theorem steps_spec (hs : lists.Sound cx base) {rule : String} {kept : Nat}
    {ps : List (Param Kind)} {sts : List Step} {args : List Bool}
    (h : (cx.steps rule kept lists ps).outcome = .ok (sts, args, lists')) :
    Grows cx base lists lists' ∧ LowersAll cx lists' kept ps sts := by
  induction ps generalizing kept lists sts args with
  | nil =>
    unfold steps at h
    cases h
    exact ⟨.refl hs, .nil⟩
  | cons p ps ih =>
    unfold steps at h
    dsimp only at h
    split at h
    · next hpresent =>
      obtain ⟨⟨st, mid⟩, hst, h⟩ := Journaled.bind_ok_iff.mp h
      obtain ⟨⟨sts', args', last⟩, hrest, heq⟩ := Journaled.map_ok_iff.mp h
      cases heq
      obtain ⟨hgrow, hlow⟩ := step_spec hs hst
      obtain ⟨hgrow', hall⟩ := ih hgrow.sound hrest
      refine ⟨hgrow.trans hgrow', ?_⟩
      cases ho : p.shape.isOptional with
      | false =>
        rw [ho] at hall
        exact .required ho (hlow.mono hgrow'.ext) hall
      | true =>
        rw [ho] at hall
        exact .present ho (by simpa [ho] using hpresent) (hlow.mono hgrow'.ext) hall
    · next habsent =>
      obtain ⟨⟨sts', args', last⟩, hrest, heq⟩ := Journaled.map_ok_iff.mp h
      cases heq
      have ho : p.shape.isOptional = true := by
        cases ho : p.shape.isOptional with
        | false => simp [ho] at habsent
        | true => rfl
      rw [ho] at hrest
      obtain ⟨hgrow, hall⟩ := ih hs hrest
      exact ⟨hgrow, .omitted ho (by simpa [ho] using habsent) hall⟩

theorem rule_spec (hs : lists.Sound cx base) {id : RuleId} {v : Variant} {d : RuleDecl} {r : Rule}
    (h : (cx.rule id v d lists).outcome = .ok (r, lists')) :
    Grows cx base lists lists' ∧ r.id = id ∧ LowersAll cx lists' v.kept d.params r.steps := by
  unfold rule at h
  obtain ⟨⟨sts, args, mid⟩, hsteps, h⟩ := Journaled.bind_ok_iff.mp h
  obtain ⟨_, -, h⟩ := Journaled.bind_ok_iff.mp h
  cases h
  obtain ⟨hgrow, hall⟩ := steps_spec hs hsteps
  exact ⟨hgrow, rfl, hall⟩

/-! ## All variants -/

/-- The rules stand for the variants, one for one, with ids from `id` on. -/
structure Implements (cx : Context) (decls : List RuleDecl) (id : RuleId) (lists : ListRules)
    (variants : List Variant) (rules : List Rule) : Prop where
  length_eq : rules.length = variants.length
  rule_of_variant : ∀ j v, variants[j]? = some v → ∃ d r, decls[v.decl]? = some d ∧
    rules[j]? = some r ∧ r.id = id + j ∧ LowersAll cx lists v.kept d.params r.steps

/-- **Variants.** Every variant of a declaration gets a rule that stands for it. -/
theorem rules_spec (hs : lists.Sound cx base) {decls : List RuleDecl} {id : RuleId}
    {variants : List Variant} {rs : List Rule}
    (hv : ∀ v ∈ variants, ∃ d, decls[v.decl]? = some d)
    (h : (cx.rules decls id lists variants).outcome = .ok (rs, lists')) :
    Grows cx base lists lists' ∧ Implements cx decls id lists' variants rs := by
  induction variants generalizing id lists rs with
  | nil =>
    unfold rules at h
    cases h
    exact ⟨.refl hs, rfl, by simp⟩
  | cons v variants ih =>
    obtain ⟨d, hd⟩ := hv v List.mem_cons_self
    unfold rules at h
    rw [hd] at h
    obtain ⟨⟨r, mid⟩, hr, h⟩ := Journaled.bind_ok_iff.mp h
    obtain ⟨⟨rs', last⟩, hrest, heq⟩ := Journaled.map_ok_iff.mp h
    cases heq
    obtain ⟨hgrow, hid, hall⟩ := rule_spec hs hr
    obtain ⟨hgrow', himpl⟩ := ih hgrow.sound (fun v' h' => hv v' (List.mem_cons_of_mem v h')) hrest
    refine ⟨hgrow.trans hgrow', by simp [himpl.length_eq], ?_⟩
    intro j v' hj
    cases j with
    | zero =>
      cases hj
      exact ⟨d, r, hd, rfl, hid, hall.mono hgrow'.ext⟩
    | succ j =>
      obtain ⟨d', r', hd', hr', hid', hall'⟩ := himpl.rule_of_variant j v' hj
      exact ⟨d', r', hd', hr', by grind, hall'⟩

end Context
end GrammarKit.Compile
