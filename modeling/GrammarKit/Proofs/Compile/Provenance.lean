import GrammarKit.Proofs.Compile.VariantRules

/-!
# Where rules come from

The rule of a variant remembers its declaration (`origin`) and which parameters
it keeps (`args`); its steps stand for these one for one (`Descends`,
`rules_descend`). A rule that was made for a list remembers just that
(`rules_synthetic`).

The second result is a case of `rules_keep`: what every step of a parameter keeps
true of the list rules is true of them in the end, and what holds of all these steps
holds of the steps of the rules. What relates the list rules to the steps that were
made before them, and to the parameters that these stand for, goes by `rules_trace`.
-/
namespace GrammarKit

/-- The parameters that are present, by their marks. -/
def RuleDecl.present (d : RuleDecl) (args : List Bool) : List (Param Kind) :=
  ((d.params.zip args).filter (·.2)).map (·.1)

/-- The steps of a declared rule, each with the parameter that it stands for. -/
def Rule.uses (decls : List RuleDecl) (r : Rule) : List (Param Kind × Step) :=
  match r.origin with
  | .declared _ decl => (decls[decl]?).elim [] fun d => (d.present r.args).zip r.steps
  | _ => []

theorem Rule.uses_of_declared {decls : List RuleDecl} {r : Rule} {action : String} {decl : Nat}
    {d : RuleDecl} (h : r.origin = .declared action decl) (hd : decls[decl]? = some d) :
    r.uses decls = (d.present r.args).zip r.steps := by
  rw [uses, h]
  dsimp only
  rw [hd, Option.elim_some]

theorem Rule.uses_of_synthetic {r : Rule} (h : r.origin.isSynthetic = true)
    (decls : List RuleDecl) : r.uses decls = [] := by
  unfold uses
  split
  · next horigin =>
    rw [horigin] at h
    cases h
  · rfl

theorem Rule.mem_steps_of_mem_uses {decls : List RuleDecl} {r : Rule} {use : Param Kind × Step}
    (h : use ∈ r.uses decls) : use.2 ∈ r.steps := by
  unfold uses at h
  split at h
  · next decl _ =>
    cases hd : decls[decl]? with
    | none =>
      rw [hd] at h
      cases h
    | some d =>
      rw [hd] at h
      exact (List.of_mem_zip h).2
  · cases h

namespace Compile

/-- Which parameters a variant keeps. The lowest bit of `kept` decides about the
next optional one. -/
def keptArgs (kept : Nat) : List (Param Kind) → List Bool
  | [] => []
  | p :: ps =>
    if p.shape.isOptional then (kept % 2 = 1) :: keptArgs (kept / 2) ps
    else true :: keptArgs kept ps

/-- The parameters that a variant keeps. -/
def keptParams (kept : Nat) (ps : List (Param Kind)) : List (Param Kind) :=
  ((ps.zip (keptArgs kept ps)).filter (·.2)).map (·.1)

theorem keptParams_cons (kept : Nat) (p : Param Kind) (ps : List (Param Kind)) :
    keptParams kept (p :: ps) = (if !p.shape.isOptional || kept % 2 = 1 then [p] else []) ++
      keptParams (if p.shape.isOptional then kept / 2 else kept) ps := by
  unfold keptParams
  rw [keptArgs]
  cases p.shape.isOptional with
  | false => rfl
  | true =>
    by_cases hk : kept % 2 = 1
    · simp [hk]
    · simp [hk]

/-- One variant keeps all parameters. -/
theorem keptParams_all (ps : List (Param Kind)) :
    keptParams (2 ^ (ps.filter (·.shape.isOptional)).length - 1) ps = ps := by
  induction ps with
  | nil => rfl
  | cons p ps ih =>
    rw [keptParams_cons]
    cases ho : p.shape.isOptional with
    | false => simp [ho, ih]
    | true =>
      -- all bits of the number are set, the lowest and those of its half
      have hpos := Nat.two_pow_pos (ps.filter (·.shape.isOptional)).length
      have hodd : (2 ^ (ps.filter (·.shape.isOptional)).length * 2 - 1) % 2 = 1 := by omega
      have hhalf : (2 ^ (ps.filter (·.shape.isOptional)).length * 2 - 1) / 2 =
          2 ^ (ps.filter (·.shape.isOptional)).length - 1 := by omega
      simp [ho, Nat.pow_succ, hodd, hhalf, ih]

variable {cx : Context} {lists lists' : ListRules}

/-- The steps stand for the parameters that are kept, one for one. -/
theorem LowersAll.forall₂ {kept : Nat} {ps : List (Param Kind)} {sts : List Step}
    (h : LowersAll cx lists kept ps sts) :
    List.Forall₂ (fun p st => Lowers cx lists p.shape st) (keptParams kept ps) sts := by
  induction h with
  | nil => exact .nil
  | required ho hl _ ih =>
    rw [keptParams, keptArgs, if_neg (by simp [ho])]
    exact .cons hl ih
  | @present kept p ps st sts ho hk hl _ ih =>
    rw [keptParams, keptArgs, if_pos ho, decide_eq_true hk]
    exact .cons hl ih
  | @omitted kept p ps sts ho hk _ ih =>
    rw [keptParams, keptArgs, if_pos ho, decide_eq_false (by omega)]
    exact ih

namespace Context

/-- The marks of a variant tell what it keeps. -/
theorem steps_args {rule : String} {kept : Nat} {ps : List (Param Kind)} {sts : List Step}
    {args : List Bool} (h : (cx.steps rule kept lists ps).outcome = .ok (sts, args, lists')) :
    args = keptArgs kept ps := by
  induction ps generalizing kept lists sts args with
  | nil =>
    unfold steps at h
    cases h
    rfl
  | cons p ps ih =>
    unfold steps at h
    dsimp only at h
    split at h
    · next hpresent =>
      obtain ⟨⟨st, mid⟩, -, h⟩ := Journaled.bind_ok_iff.mp h
      obtain ⟨⟨sts', args', last⟩, hrest, heq⟩ := Journaled.map_ok_iff.mp h
      cases heq
      rw [ih hrest, keptArgs]
      cases ho : p.shape.isOptional with
      | false => rfl
      | true => simpa [ho] using hpresent
    · next habsent =>
      obtain ⟨⟨sts', args', last⟩, hrest, heq⟩ := Journaled.map_ok_iff.mp h
      cases heq
      rw [ih hrest, keptArgs]
      cases ho : p.shape.isOptional with
      | false => simp [ho] at habsent
      | true => simpa [ho] using habsent

/-- The rule is one of a declaration: it says so, and its steps stand for the
parameters that it keeps. -/
structure Descends (cx : Context) (lists : ListRules) (decls : List RuleDecl) (r : Rule) (decl : Nat)
    (d : RuleDecl) : Prop where
  get : decls[decl]? = some d
  origin : r.origin = .declared d.action decl
  lowers : List.Forall₂ (fun p st => Lowers cx lists p.shape st) (d.present r.args) r.steps

theorem rule_descends {base : RuleId} (hs : lists.Sound cx base) {decls : List RuleDecl}
    {id : RuleId} {v : Variant} {d : RuleDecl} {r : Rule} (hd : decls[v.decl]? = some d)
    (h : (cx.rule id v d lists).outcome = .ok (r, lists')) :
    cx.Descends lists' decls r v.decl d := by
  obtain ⟨-, -, hall⟩ := rule_spec hs h
  unfold rule at h
  obtain ⟨⟨sts, args, mid⟩, hsteps, h⟩ := Journaled.bind_ok_iff.mp h
  obtain ⟨_, -, h⟩ := Journaled.bind_ok_iff.mp h
  cases h
  refine ⟨hd, rfl, ?_⟩
  have hargs := steps_args hsteps
  subst hargs
  exact hall.forall₂

theorem Descends.mono {decls : List RuleDecl} {r : Rule} {decl : Nat} {d : RuleDecl}
    (he : lists.Extends lists') (h : cx.Descends lists decls r decl d) :
    cx.Descends lists' decls r decl d :=
  ⟨h.get, h.origin, h.lowers.imp fun _ _ hl => hl.mono he⟩

/-- Every rule of a variant is one of a declaration. -/
theorem rules_descend {base : RuleId} (hs : lists.Sound cx base) {decls : List RuleDecl}
    {id : RuleId} {variants : List Variant} {rs : List Rule}
    (hv : ∀ v ∈ variants, ∃ d, decls[v.decl]? = some d)
    (h : (cx.rules decls id lists variants).outcome = .ok (rs, lists')) :
    ∀ r ∈ rs, ∃ decl d, cx.Descends lists' decls r decl d := by
  induction variants generalizing id lists rs with
  | nil =>
    unfold rules at h
    cases h
    simp
  | cons v variants ih =>
    obtain ⟨d, hd⟩ := hv v List.mem_cons_self
    have hv' : ∀ v' ∈ variants, ∃ d, decls[v'.decl]? = some d :=
      fun v' h' => hv v' (List.mem_cons_of_mem v h')
    unfold rules at h
    rw [hd] at h
    obtain ⟨⟨r, mid⟩, hr, h⟩ := Journaled.bind_ok_iff.mp h
    obtain ⟨⟨rs', last⟩, hrest, heq⟩ := Journaled.map_ok_iff.mp h
    cases heq
    obtain ⟨hgrow, -, -⟩ := rule_spec hs hr
    obtain ⟨hgrow', -⟩ := rules_spec hgrow.sound hv' hrest
    refine List.forall_mem_cons.mpr ⟨⟨v.decl, d, (rule_descends hs hd hr).mono hgrow'.ext⟩, ?_⟩
    exact ih hgrow.sound hv' hrest

/-- The rule of a variant has the ranked type and the action of its declaration. -/
def OfVariant (decls : List RuleDecl) (v : Variant) (r : Rule) : Prop :=
  ∃ d, decls[v.decl]? = some d ∧ r.ranked = d.ranked ∧ r.origin = .declared d.action v.decl

/-- What holds of every variant and the rule that it becomes, holds of them in order. -/
theorem rules_forall₂ {R : Variant → Rule → Prop} {decls : List RuleDecl} {id : RuleId}
    {variants : List Variant} {rs : List Rule}
    (hrule : ∀ v d id r s s', decls[v.decl]? = some d → (cx.rule id v d s).outcome = .ok (r, s') →
      R v r)
    (hv : ∀ v ∈ variants, ∃ d, decls[v.decl]? = some d)
    (h : (cx.rules decls id lists variants).outcome = .ok (rs, lists')) :
    List.Forall₂ R variants rs := by
  induction variants generalizing id lists rs with
  | nil =>
    unfold rules at h
    cases h
    exact .nil
  | cons v variants ih =>
    obtain ⟨d, hd⟩ := hv v List.mem_cons_self
    unfold rules at h
    rw [hd] at h
    obtain ⟨⟨r, mid⟩, hr, h⟩ := Journaled.bind_ok_iff.mp h
    obtain ⟨⟨rs', last⟩, hrest, heq⟩ := Journaled.map_ok_iff.mp h
    cases heq
    exact .cons (hrule v d _ _ _ _ hd hr)
      (ih (fun v' h' => hv v' (List.mem_cons_of_mem v h')) hrest)

/-- The rules are those of the variants, in order. -/
theorem rules_ofVariant {decls : List RuleDecl} {id : RuleId} {variants : List Variant}
    {rs : List Rule} (hv : ∀ v ∈ variants, ∃ d, decls[v.decl]? = some d)
    (h : (cx.rules decls id lists variants).outcome = .ok (rs, lists')) :
    List.Forall₂ (OfVariant decls) variants rs := by
  refine rules_forall₂ (fun v d id r s s' hd hr => ?_) hv h
  unfold rule at hr
  obtain ⟨⟨sts, args, mid⟩, -, hr⟩ := Journaled.bind_ok_iff.mp hr
  obtain ⟨_, -, hr⟩ := Journaled.bind_ok_iff.mp hr
  cases hr
  exact ⟨d, hd, rfl, rfl⟩

/-- The rules have the marks of their variants. -/
theorem rules_args {decls : List RuleDecl} {id : RuleId} {variants : List Variant}
    {rs : List Rule} (hv : ∀ v ∈ variants, ∃ d, decls[v.decl]? = some d)
    (h : (cx.rules decls id lists variants).outcome = .ok (rs, lists')) :
    List.Forall₂ (fun v r => ∀ d, decls[v.decl]? = some d → r.args = keptArgs v.kept d.params)
      variants rs := by
  refine rules_forall₂ (fun v d id r s s' hd hr d' hd' => ?_) hv h
  rw [hd] at hd'
  cases hd'
  unfold rule at hr
  obtain ⟨⟨sts, args, mid⟩, hsteps, hr⟩ := Journaled.bind_ok_iff.mp hr
  obtain ⟨_, -, hr⟩ := Journaled.bind_ok_iff.mp hr
  cases hr
  exact steps_args hsteps

/-! ## What every step keeps -/

/-- The rule has a mark for every parameter of its declaration and at most as many
steps, and of these the property holds. -/
structure Follows (Q : Step → Prop) (decls : List RuleDecl) (r : Rule) (decl : Nat) (d : RuleDecl) :
    Prop where
  get : decls[decl]? = some d
  ranked : r.ranked = d.ranked
  origin : r.origin = .declared d.action decl
  length_steps : r.steps.length ≤ d.params.length
  length_args : r.args.length = d.params.length
  steps : ∀ st ∈ r.steps, Q st

section Keep

variable {P : ListRules → Prop} {Q : Step → Prop}

theorem steps_keep {rule : String} {kept : Nat} {ps : List (Param Kind)} {sts : List Step}
    {args : List Bool}
    (hstep : ∀ p ∈ ps, ∀ s s' st, P s → (cx.step rule p s).outcome = .ok (st, s') → P s' ∧ Q st)
    (hP : P lists) (h : (cx.steps rule kept lists ps).outcome = .ok (sts, args, lists')) :
    P lists' ∧ sts.length ≤ ps.length ∧ args.length = ps.length ∧ ∀ st ∈ sts, Q st := by
  induction ps generalizing kept lists sts args with
  | nil =>
    unfold steps at h
    cases h
    exact ⟨hP, Nat.le_refl 0, rfl, by simp⟩
  | cons p ps ih =>
    obtain ⟨hp, hps⟩ := List.forall_mem_cons.mp hstep
    unfold steps at h
    dsimp only at h
    split at h
    · obtain ⟨⟨st, mid⟩, hst, h⟩ := Journaled.bind_ok_iff.mp h
      obtain ⟨⟨sts', args', last⟩, hrest, heq⟩ := Journaled.map_ok_iff.mp h
      cases heq
      obtain ⟨hmid, hQ⟩ := hp _ _ _ hP hst
      obtain ⟨hlast, hle, hlen, hall⟩ := ih hps hmid hrest
      exact ⟨hlast, Nat.succ_le_succ hle, congrArg (· + 1) hlen,
        List.forall_mem_cons.mpr ⟨hQ, hall⟩⟩
    · obtain ⟨⟨sts', args', last⟩, hrest, heq⟩ := Journaled.map_ok_iff.mp h
      cases heq
      obtain ⟨hlast, hle, hlen, hall⟩ := ih hps hP hrest
      exact ⟨hlast, Nat.le_succ_of_le hle, congrArg (· + 1) hlen, hall⟩

/-- What the step of every parameter keeps true of the list rules, the rules of
all variants keep true; and what holds of every such step holds of their steps. -/
theorem rules_keep {decls : List RuleDecl} {id : RuleId} {variants : List Variant} {rs : List Rule}
    (hstep : ∀ d ∈ decls, ∀ p ∈ d.params, ∀ s s' st, P s →
      (cx.step d.action p s).outcome = .ok (st, s') → P s' ∧ Q st)
    (hP : P lists) (h : (cx.rules decls id lists variants).outcome = .ok (rs, lists')) :
    P lists' ∧ ∀ r ∈ rs, ∃ decl d, Follows Q decls r decl d := by
  induction variants generalizing id lists rs with
  | nil =>
    unfold rules at h
    cases h
    exact ⟨hP, by simp⟩
  | cons v variants ih =>
    unfold rules at h
    split at h
    · exact ih hP h
    · next d hd =>
      obtain ⟨⟨r, mid⟩, hr, h⟩ := Journaled.bind_ok_iff.mp h
      obtain ⟨⟨rs', last⟩, hrest, heq⟩ := Journaled.map_ok_iff.mp h
      cases heq
      unfold rule at hr
      obtain ⟨⟨sts, args, mid'⟩, hsteps, hr⟩ := Journaled.bind_ok_iff.mp hr
      obtain ⟨_, -, hr⟩ := Journaled.bind_ok_iff.mp hr
      cases hr
      obtain ⟨hmid, hle, hlen, hall⟩ := steps_keep (hstep d (List.mem_of_getElem? hd)) hP hsteps
      obtain ⟨hlast, hrs⟩ := ih hmid hrest
      exact ⟨hlast, List.forall_mem_cons.mpr ⟨⟨v.decl, d, hd, rfl, rfl, hle, hlen, hall⟩, hrs⟩⟩

end Keep

section Trace

variable {P : List (Param Kind × Step) → ListRules → Prop} {made : List (Param Kind × Step)}

theorem steps_trace {rule : String} {kept : Nat} {ps : List (Param Kind)} {sts : List Step}
    {args : List Bool}
    (hstep : ∀ p ∈ ps, ∀ made s s' st, P made s → (cx.step rule p s).outcome = .ok (st, s') →
      P (made ++ [(p, st)]) s')
    (hP : P made lists) (h : (cx.steps rule kept lists ps).outcome = .ok (sts, args, lists')) :
    P (made ++ (keptParams kept ps).zip sts) lists' := by
  induction ps generalizing kept lists made sts args with
  | nil =>
    unfold steps at h
    cases h
    rwa [List.zip_nil_right, List.append_nil]
  | cons p ps ih =>
    obtain ⟨hp, hps⟩ := List.forall_mem_cons.mp hstep
    unfold steps at h
    dsimp only at h
    rw [keptParams_cons]
    split at h
    · next hpresent =>
      obtain ⟨⟨st, mid⟩, hst, h⟩ := Journaled.bind_ok_iff.mp h
      obtain ⟨⟨sts', args', last⟩, hrest, heq⟩ := Journaled.map_ok_iff.mp h
      cases heq
      rw [if_pos hpresent, List.singleton_append, List.zip_cons_cons, List.append_cons]
      exact ih hps (hp _ _ _ _ hP hst) hrest
    · next habsent =>
      obtain ⟨⟨sts', args', last⟩, hrest, heq⟩ := Journaled.map_ok_iff.mp h
      cases heq
      rw [if_neg habsent, List.nil_append]
      exact ih hps hP hrest

/-- What the step of every parameter keeps true of the steps made so far and the list
rules, the rules of all variants keep true. -/
theorem rules_trace_from {decls : List RuleDecl} {id : RuleId} {variants : List Variant}
    {rs : List Rule} (hstep : ∀ d ∈ decls, ∀ p ∈ d.params, ∀ made s s' st, P made s →
      (cx.step d.action p s).outcome = .ok (st, s') → P (made ++ [(p, st)]) s')
    (hP : P made lists) (h : (cx.rules decls id lists variants).outcome = .ok (rs, lists')) :
    P (made ++ rs.flatMap (·.uses decls)) lists' := by
  induction variants generalizing id lists made rs with
  | nil =>
    unfold rules at h
    cases h
    rwa [List.flatMap_nil, List.append_nil]
  | cons v variants ih =>
    unfold rules at h
    split at h
    · exact ih hP h
    · next d hd =>
      obtain ⟨⟨r, mid⟩, hr, h⟩ := Journaled.bind_ok_iff.mp h
      obtain ⟨⟨rs', last⟩, hrest, heq⟩ := Journaled.map_ok_iff.mp h
      cases heq
      unfold rule at hr
      obtain ⟨⟨sts, args, mid'⟩, hsteps, hr⟩ := Journaled.bind_ok_iff.mp hr
      obtain ⟨_, -, hr⟩ := Journaled.bind_ok_iff.mp hr
      cases hr
      have huses : Rule.uses decls ⟨id, d.ranked, .declared d.action v.decl, sts, args, [], []⟩ =
          (keptParams v.kept d.params).zip sts := by
        rw [Rule.uses_of_declared rfl hd, steps_args hsteps]
        rfl
      rw [List.flatMap_cons, ← List.append_assoc, huses]
      exact ih (steps_trace (hstep d (List.mem_of_getElem? hd)) hP hsteps) hrest

/-- The same from the start, where no steps are made. -/
theorem rules_trace {decls : List RuleDecl} {id : RuleId} {variants : List Variant} {rs : List Rule}
    (hstep : ∀ d ∈ decls, ∀ p ∈ d.params, ∀ made s s' st, P made s →
      (cx.step d.action p s).outcome = .ok (st, s') → P (made ++ [(p, st)]) s')
    (hP : P [] lists) (h : (cx.rules decls id lists variants).outcome = .ok (rs, lists')) :
    P (rs.flatMap (·.uses decls)) lists' :=
  rules_trace_from hstep hP h

end Trace

/-! ## What a step can be -/

theorem lt_of_terminal {rule param : String} {tokens accepted : List TokenId}
    (h : cx.terminal rule param tokens = .ok accepted) : ∀ t ∈ tokens, t < cx.tokens.size := by
  unfold terminal at h
  split at h
  · cases h
  · split at h
    · cases h
    · next hnone =>
      intro t ht
      have := List.find?_eq_none.mp hnone t ht
      simpa [TokenTable.contains] using this

/-- A terminal accepts tokens of the table only. -/
theorem lt_of_mem_terminal (hcx : cx.substitutes = cx.tokens.substitutes) {rule param : String}
    {tokens accepted : List TokenId} (h : cx.terminal rule param tokens = .ok accepted) :
    ∀ t ∈ accepted, t < cx.tokens.size := by
  obtain ⟨-, rfl⟩ := terminal_ok h
  rw [hcx]
  exact TokenTable.lt_of_mem_withDescendants (lt_of_terminal h)

/-- The steps of an element are a choice between its rules and a terminal for the
delimiter. -/
theorem listPlan_cases {rule param : String} {element : Kind} {maxRank : Option Nat} {min : Nat}
    {delimiter : Option Delimiter} {l : ListPlan}
    (h : cx.listPlan rule param element maxRank min delimiter = .ok l) :
    ∃ items, cx.alternatives rule param element maxRank = .ok items ∧
      l.ranked = ⟨element, cx.elementRank element maxRank⟩ ∧
      ∀ s ∈ l.itemSteps, s = .nonTerminal items ∨
        ∃ token ts, cx.terminal rule param [token] = .ok ts ∧ s = .terminal ts := by
  unfold listPlan at h
  obtain ⟨items, hitems, h⟩ := bind_eq_ok_iff.mp h
  obtain ⟨tokens, htokens, h⟩ := bind_eq_ok_iff.mp h
  cases h
  refine ⟨items, hitems, rfl, List.forall_mem_cons.mpr ⟨Or.inl rfl, fun s hs => ?_⟩⟩
  cases delimiter with
  | none =>
    cases htokens
    cases hs
  | some δ =>
    cases ht : cx.terminal rule param [δ.token] with
    | error e => simp [ht, Functor.map, Except.map] at htokens
    | ok ts =>
      simp only [Option.mapM_some, ht, Functor.map, Except.map, Except.ok.injEq] at htokens
      subst htokens
      exact Or.inr ⟨δ.token, ts, ht, List.mem_singleton.mp hs⟩

/-- A parameter becomes a terminal, a choice between the rules of a kind, or the step of
a list. Only the last one makes list rules. -/
theorem step_cases {rule : String} {p : Param Kind} {st : Step}
    (h : (cx.step rule p lists).outcome = .ok (st, lists')) :
    (∃ ts accepted, cx.terminal rule p.name ts = .ok accepted ∧ st = .terminal accepted ∧
      lists' = lists) ∨
    (∃ k cap rs, cx.alternatives rule p.name k cap = .ok rs ∧ st = .nonTerminal rs ∧
      lists' = lists) ∨
    ∃ el cap min δ l, p.shape = .list el cap min δ ∧
      cx.listPlan rule p.name el cap min δ = .ok l ∧ st = (lists.step l).1 ∧
      lists' = (lists.step l).2.1 := by
  obtain ⟨name, shape⟩ := p
  unfold step at h
  cases shape with
  | terminal tokens optional =>
    cases ht : cx.terminal rule name tokens with
    | error e => simp [ht, Except.map] at h
    | ok ts =>
      simp only [ht, Except.map, Except.ok.injEq, Prod.mk.injEq] at h
      exact Or.inl ⟨tokens, ts, ht, h.1.symm, h.2.symm⟩
  | nonTerminal kind maxRank optional =>
    cases ha : cx.alternatives rule name kind maxRank with
    | error e => simp [ha, Except.map] at h
    | ok rs =>
      simp only [ha, Except.map, Except.ok.injEq, Prod.mk.injEq] at h
      exact Or.inr (Or.inl ⟨kind, maxRank, rs, ha, h.1.symm, h.2.symm⟩)
  | list el cap min δ =>
    cases hp : cx.listPlan rule name el cap min δ with
    | error e => simp [hp] at h
    | ok l =>
      simp only [hp, Except.ok.injEq, Prod.mk.injEq] at h
      exact Or.inr (Or.inr ⟨el, cap, min, δ, l, rfl, hp, h.1.symm, h.2.symm⟩)

/-- A step of a parameter leaves the list rules as they are, or makes those of a
list. -/
theorem step_lists {rule : String} {p : Param Kind} {st : Step}
    (h : (cx.step rule p lists).outcome = .ok (st, lists')) :
    lists' = lists ∨ ∃ el cap min δ l, p.shape = .list el cap min δ ∧
      cx.listPlan rule p.name el cap min δ = .ok l ∧ lists' = (lists.step l).2.1 := by
  rcases step_cases h with ⟨-, -, -, -, hlists⟩ | ⟨-, -, -, -, -, hlists⟩ |
    ⟨el, cap, min, δ, l, hshape, hl, -, hlists⟩
  · exact Or.inl hlists
  · exact Or.inl hlists
  · exact Or.inr ⟨el, cap, min, δ, l, hshape, hl, hlists⟩

end Context

/-- All rules were made for lists. -/
def ListRules.Synthetic (s : ListRules) : Prop := ∀ r ∈ s.rules, r.origin.isSynthetic = true

/-- What holds of the three kinds of rules for a list, and of all rules before,
holds of all rules after. -/
theorem ListRules.forall_mem_step {P : Rule → Prop} {s : ListRules} {l : ListPlan}
    (hs : ∀ r ∈ s.rules, P r)
    (hlast : ∀ id, P ⟨id, l.ranked, .listLast, l.lastSteps, [], [], []⟩)
    (hmore : ∀ id last more, P ⟨id, l.ranked, .listMore, l.moreSteps last more, [], [], []⟩)
    (hleading : ∀ id last more, 3 ≤ l.min →
      P ⟨id, l.ranked, .listLeading, l.leadingSteps last more, [], [], []⟩) :
    ∀ r ∈ (s.step l).2.1.rules, P r := by
  have hpair : ∀ r ∈ (s.pair l).2.1.rules, P r := by
    rcases s.pair_cases l with ⟨p, -, heq⟩ | ⟨-, heq⟩
    · rw [heq]
      exact hs
    · rw [heq, rules_withPair]
      intro r hr
      rcases List.mem_append.mp hr with hr | hr
      · exact hs r hr
      rcases List.mem_cons.mp hr with rfl | hr
      · exact hlast _
      · rw [List.mem_singleton.mp hr]
        exact hmore _ _ _
  rcases Nat.lt_or_ge 2 l.min with hlong | hshort
  · rw [(s.step_of_long hlong).2, rules_push]
    intro r hr
    rcases List.mem_append.mp hr with hr | hr
    · exact hpair r hr
    · rw [List.mem_singleton.mp hr]
      exact hleading _ _ _ hlong
  · rw [(s.step_of_short hshort).2]
    exact hpair

theorem Context.rules_synthetic {decls : List RuleDecl} {id : RuleId} {variants : List Variant}
    {rs : List Rule} (hP : lists.Synthetic)
    (h : (cx.rules decls id lists variants).outcome = .ok (rs, lists')) : lists'.Synthetic := by
  refine (rules_keep (Q := fun _ => True) (fun d _ p _ s s' st hs hstep => ⟨?_, trivial⟩) hP h).1
  rcases step_lists hstep with rfl | ⟨el, cap, min, δ, l, -, -, rfl⟩
  · exact hs
  · exact ListRules.forall_mem_step hs (fun _ => rfl) (fun _ _ _ => rfl) (fun _ _ _ _ => rfl)

end Compile
end GrammarKit
