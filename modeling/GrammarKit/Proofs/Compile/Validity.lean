import GrammarKit.Compile.Grammar
import GrammarKit.Proofs.Compile.Numbering
import GrammarKit.Proofs.Compile.Provenance
import GrammarKit.Proofs.Declaration
import GrammarKit.Proofs.Fault

/-!
# Valid declarations

A declaration is valid for a table of tokens (`Valid`) if the stream has an end, a rule
produces the start kind, no rule has too many optional parameters, and every parameter
refers to tokens and kinds that there are. `Refuses` lists what an error may complain
about, with the rule and the parameter that the error names.

Compilation looks at a parameter when it becomes a step, so at an optional one only in the
variants that keep it, and looks for rules of the start kind last. `compile_ok_iff_valid`:
it succeeds exactly on valid declarations all the same, and its errors are right. Each
operation is said to answer (`Answers`): its value stands for a condition, its error for a
complaint. What is valid cannot be refused, so there is no third case.
-/
namespace GrammarKit

/-- A value stands for `P`, an error for `Q`. -/
def Answers {ε α : Type} (P : Prop) (Q : ε → Prop) : Except ε α → Prop
  | .ok _ => P
  | .error e => Q e

namespace Answers

variable {ε α β : Type} {P R : Prop} {Q : ε → Prop} {x : Except ε α}

/-- The second operation answers for both. -/
theorem bind {f : α → Except ε β} (hx : Answers P Q x)
    (hf : ∀ a, x = .ok a → P → Answers R Q (f a)) : Answers R Q (x.bind f) := by
  cases x with
  | error e => exact hx
  | ok a => exact hf a rfl hx

theorem map {f : α → β} (hx : Answers P Q x) (hP : P → R) : Answers R Q (x.map f) := by
  cases x with
  | error e => exact hx
  | ok a => exact hP hx

theorem weaken {Q' : ε → Prop} (hx : Answers P Q x) (hP : P → R) (hQ : ∀ e, Q e → Q' e) :
    Answers R Q' x := by
  cases x with
  | error e => exact hQ e hx
  | ok a => exact hP hx

end Answers

/-! ## What is valid -/

/-- A rule produces the kind, at a rank up to the cap. -/
def Declaration.Produces (d : Declaration) (k : Kind) (cap : Option Nat) : Prop :=
  ∃ r ∈ d.rules, r.produces = k ∧ ∀ c ∈ cap, r.rank ≤ c

/-- The tokens that a parameter lists: those of a terminal, or a delimiter. -/
def Shape.tokens {κ : Type} : Shape κ → List TokenId
  | .terminal tokens _ => tokens
  | .nonTerminal _ _ _ => []
  | .list _ _ _ delimiter => (delimiter.map Delimiter.token).toList

namespace Compile

/-- What a parameter refers to is there, and a terminal lists something. -/
structure ValidShape (tokens : TokenTable) (d : Declaration) (s : Shape Kind) : Prop where
  produces : ∀ k cap, s.kind? = some (k, cap) → d.Produces k cap
  contains : ∀ t ∈ s.tokens, tokens.contains t = true
  ne_nil : ∀ optional, s ≠ .terminal [] optional

/-- What a declaration needs to be compiled for a start kind. -/
structure Valid (options : Options) (tokens : TokenTable) (d : Declaration) (start : String) :
    Prop where
  endOfStream : ∃ eos, tokens.role? .endOfStream = some eos
  start : ∃ k, d.kinds.get? start = some k ∧ d.Produces k none
  optionalCount_le : ∀ r ∈ d.rules, r.optionalCount ≤ min options.maxOptionals 31
  params : ∀ r ∈ d.rules, ∀ p ∈ r.params, ValidShape tokens d p.shape

/-- The error is right about a parameter of the rule. -/
inductive RefusesParam (tokens : TokenTable) (d : Declaration) (rule : String) (p : Param Kind) :
    CompileError → Prop where
  | unknownKind {k : Kind} {cap : Option Nat} : p.shape.kind? = some (k, cap) →
      ¬ d.Produces k none →
      RefusesParam tokens d rule p (.unknownKind rule p.name ((d.kinds.name? k).getD "?"))
  | emptyAlternatives {k : Kind} {c : Nat} : p.shape.kind? = some (k, some c) →
      d.Produces k none → ¬ d.Produces k (some c) →
      RefusesParam tokens d rule p
        (.emptyAlternatives rule p.name ((d.kinds.name? k).getD "?") c)
  | emptyTerminal {optional : Bool} : p.shape = .terminal [] optional →
      RefusesParam tokens d rule p (.emptyTerminal rule p.name)
  | unknownToken {t : TokenId} : t ∈ p.shape.tokens → tokens.contains t = false →
      RefusesParam tokens d rule p (.unknownToken rule p.name t)

/-- The error is right about the declaration. -/
inductive Refuses (options : Options) (tokens : TokenTable) (d : Declaration) (start : String) :
    CompileError → Prop where
  | missingEndOfStream : tokens.role? .endOfStream = none →
      Refuses options tokens d start .missingEndOfStream
  | unknownStartKind : (∀ k, d.kinds.get? start = some k → ¬ d.Produces k none) →
      Refuses options tokens d start (.unknownStartKind start)
  | tooManyOptionals {r : RuleDecl} : r ∈ d.rules →
      min options.maxOptionals 31 < r.optionalCount →
      Refuses options tokens d start
        (.tooManyOptionals r.action r.optionalCount options.maxOptionals)
  | param {r : RuleDecl} {p : Param Kind} {e : CompileError} : r ∈ d.rules → p ∈ r.params →
      RefusesParam tokens d r.action p e → Refuses options tokens d start e

variable {options : Options} {tokens : TokenTable} {d : Declaration} {start : String}

theorem RefusesParam.not_validShape {rule : String} {p : Param Kind} {e : CompileError}
    (h : RefusesParam tokens d rule p e) : ¬ ValidShape tokens d p.shape := by
  intro hvalid
  cases h with
  | unknownKind hkind hnone =>
    obtain ⟨r, hr, hk, -⟩ := hvalid.produces _ _ hkind
    exact hnone ⟨r, hr, hk, nofun⟩
  | emptyAlternatives hkind _ hnone => exact hnone (hvalid.produces _ _ hkind)
  | emptyTerminal hshape => exact hvalid.ne_nil _ hshape
  | unknownToken ht hcontains =>
    rw [hvalid.contains _ ht] at hcontains
    cases hcontains

/-- What is refused is not valid. -/
theorem Refuses.not_valid {e : CompileError} (h : Refuses options tokens d start e) :
    ¬ Valid options tokens d start := by
  intro hvalid
  cases h with
  | missingEndOfStream hnone =>
    obtain ⟨eos, heos⟩ := hvalid.endOfStream
    rw [heos] at hnone
    cases hnone
  | unknownStartKind hnone =>
    obtain ⟨k, hk, hproduces⟩ := hvalid.start
    exact hnone k hk hproduces
  | tooManyOptionals hr hlt =>
    exact absurd (hvalid.optionalCount_le _ hr) (Nat.not_le_of_lt hlt)
  | param hr hp hrefuses => exact hrefuses.not_validShape (hvalid.params _ hr _ hp)

/-! ## Numbering -/

/-- Numbering fails at rules with too many optional parameters. -/
theorem numberFrom_answers (maxOptionals decl : Nat) (id : RuleId) (ranks : RankIndex)
    (rules : List RuleDecl) :
    Answers (∀ r ∈ rules, r.optionalCount ≤ min maxOptionals 31)
      (fun e => ∃ r ∈ rules, min maxOptionals 31 < r.optionalCount ∧
        e = .tooManyOptionals r.action r.optionalCount maxOptionals)
      (numberFrom maxOptionals decl id ranks rules).outcome := by
  induction rules generalizing decl id ranks with
  | nil => exact fun r hr => absurd hr List.not_mem_nil
  | cons r rules ih =>
    have hcount : Answers (r.optionalCount ≤ min maxOptionals 31)
        (fun e => min maxOptionals 31 < r.optionalCount ∧
          e = .tooManyOptionals r.action r.optionalCount maxOptionals)
        (Journaled.require (.tooManyOptionals r.action r.optionalCount maxOptionals)
          (variantCount? maxOptionals r)).outcome := by
      unfold variantCount?
      split
      · next h => exact Nat.le_min.mpr ⟨h.1, Nat.le_of_lt_succ h.2⟩
      · next h => exact ⟨by omega, rfl⟩
    rw [numberFrom_cons_outcome]
    refine (hcount.weaken (fun h => h) fun e he => ⟨r, List.mem_cons_self, he⟩).bind
      fun count _ hle => ?_
    refine ((ih _ _ _).weaken (fun hall => ?_) fun e he => ?_).map fun h => h
    · exact List.forall_mem_cons.mpr ⟨hle, hall⟩
    · obtain ⟨q, hq, he⟩ := he
      exact ⟨q, List.mem_cons_of_mem r hq, he⟩

section Index

variable {maxOptionals first : Nat} {n : Numbering}
  (hn : (numberAll d first maxOptionals).outcome = .ok n)
include hn

/-- The index has rules for a kind at ranks up to a cap exactly if some are declared:
every rule has a variant that keeps no optional parameter. -/
theorem exists_mem_rulesOfKind_iff {k : Kind} {cap : Option Nat} :
    (∃ q, q ∈ (n.ranks.rulesOfKind? k cap).getD []) ↔ d.Produces k cap := by
  have hlists := numberFrom_lists RankIndex.valid_empty hn
  simp only [RankIndex.mem_rulesOfKind_iff hlists.valid, hlists.mem_rulesAt]
  constructor
  · rintro ⟨q, rank, hcap, hq | ⟨j, v, i, r, -, -, hr, -, hranked⟩⟩
    · exact absurd hq List.not_mem_nil
    · cases hranked
      exact ⟨r, List.mem_of_getElem? hr, rfl, hcap⟩
  · rintro ⟨r, hr, rfl, hcap⟩
    obtain ⟨i, hi⟩ := List.getElem?_of_mem hr
    have hmem := (hlists.mem_variants ⟨i, 0⟩).mpr
      ⟨i, r, hi, (Nat.zero_add i).symm, Nat.two_pow_pos _⟩
    obtain ⟨j, hj⟩ := List.getElem?_of_mem hmem
    exact ⟨first + j, r.rank, hcap, Or.inr ⟨j, _, i, r, hj, rfl, hi, (Nat.zero_add i).symm, rfl⟩⟩

/-- The index knows the kinds that are produced. -/
theorem produces_of_rulesOfKind {k : Kind} {cap : Option Nat} {rules : List RuleId}
    (h : n.ranks.rulesOfKind? k cap = some rules) : d.Produces k none := by
  have hlists := numberFrom_lists RankIndex.valid_empty hn
  have hfresh := numberFrom_fresh (RankIndex.fresh_empty first) hn
  obtain ⟨top, htop, -⟩ := Option.map_eq_some_iff.mp h
  obtain ⟨rank, q, hq⟩ := hfresh.peopled k top htop
  exact (exists_mem_rulesOfKind_iff hn).mp
    ⟨q, (RankIndex.mem_rulesOfKind_iff hlists.valid).mpr ⟨rank, nofun, hq⟩⟩

theorem not_produces_of_rulesOfKind {k : Kind} {cap : Option Nat}
    (h : n.ranks.rulesOfKind? k cap = none) : ¬ d.Produces k none := by
  intro hproduces
  have hnone : n.ranks.rulesOfKind? k none = none :=
    Option.map_eq_none_iff.mpr (Option.map_eq_none_iff.mp h)
  obtain ⟨q, hq⟩ := (exists_mem_rulesOfKind_iff hn).mpr hproduces
  rw [hnone] at hq
  exact absurd hq List.not_mem_nil

end Index

/-! ## Parameters -/

namespace Context

variable {cx : Context}

theorem terminal_answers (cx : Context) (rule param : String) (ts : List TokenId) :
    Answers (ts ≠ [] ∧ ∀ t ∈ ts, cx.tokens.contains t = true)
      (fun e => (ts = [] ∧ e = .emptyTerminal rule param) ∨
        ∃ t ∈ ts, cx.tokens.contains t = false ∧ e = .unknownToken rule param t)
      (cx.terminal rule param ts) := by
  unfold terminal
  split
  · next hnil => exact Or.inl ⟨List.isEmpty_iff.mp hnil, rfl⟩
  · next hne =>
    split
    · next t hfind =>
      have hunknown : cx.tokens.contains t = false := by simpa using List.find?_some hfind
      exact Or.inr ⟨t, List.mem_of_find?_eq_some hfind, hunknown, rfl⟩
    · next hfind =>
      refine ⟨fun hnil => hne (List.isEmpty_iff.mpr hnil), fun t ht => ?_⟩
      simpa using List.find?_eq_none.mp hfind t ht

section Parameters

variable {maxOptionals first : Nat} {n : Numbering}
  (hn : (numberAll d first maxOptionals).outcome = .ok n) (hranks : cx.ranks = n.ranks)
  (hkinds : cx.kinds = d.kinds)
include hn hranks hkinds

/-- A kind has alternatives if rules produce it at a rank that is not too high. -/
theorem alternatives_answers (rule : String) {p : Param Kind} {k : Kind} {cap : Option Nat}
    (hp : p.shape.kind? = some (k, cap)) :
    Answers (d.Produces k cap) (RefusesParam tokens d rule p)
      (cx.alternatives rule p.name k cap) := by
  unfold alternatives
  rw [hranks, hkinds]
  dsimp only
  split
  · next hnone => exact .unknownKind hp (not_produces_of_rulesOfKind hn hnone)
  · next hempty =>
    have hproduces := produces_of_rulesOfKind hn hempty
    have hnot : ¬ d.Produces k cap := by
      intro h
      obtain ⟨q, hq⟩ := (exists_mem_rulesOfKind_iff hn).mpr h
      rw [hempty] at hq
      exact absurd hq List.not_mem_nil
    cases cap with
    | none => exact absurd hproduces hnot
    | some c => exact .emptyAlternatives hp hproduces hnot
  · next rules hne hsome =>
    obtain ⟨q, hq⟩ := List.exists_mem_of_ne_nil rules hne
    exact (exists_mem_rulesOfKind_iff hn).mp ⟨q, by rw [hsome]; exact hq⟩

variable (htokens : cx.tokens = tokens)
include htokens

theorem listPlan_answers (rule : String) {p : Param Kind} {k : Kind} {cap : Option Nat} {min : Nat}
    {delimiter : Option Delimiter} (hp : p.shape = .list k cap min delimiter) :
    Answers (d.Produces k cap ∧ ∀ δ ∈ delimiter, tokens.contains δ.token = true)
      (RefusesParam tokens d rule p) (cx.listPlan rule p.name k cap min delimiter) := by
  have halternatives : Answers (d.Produces k cap) (RefusesParam tokens d rule p)
      (cx.alternatives rule p.name k cap) :=
    alternatives_answers hn hranks hkinds rule (by rw [hp]; rfl)
  refine halternatives.bind fun items _ hproduces => ?_
  cases delimiter with
  | none => exact ⟨hproduces, nofun⟩
  | some δ =>
    have hterminal := cx.terminal_answers rule p.name [δ.token]
    rw [htokens] at hterminal
    refine ((hterminal.weaken (fun h => ?_) fun e he => ?_).map fun h => h).bind
      fun ts _ hcontains => ⟨hproduces, hcontains⟩
    · rintro δ' ⟨⟩
      exact h.2 _ (List.mem_singleton_self _)
    · obtain ⟨hnil, -⟩ | ⟨t, ht, hunknown, rfl⟩ := he
      · cases hnil
      · refine .unknownToken ?_ hunknown
        rw [hp]
        exact ht

/-- A parameter becomes a step exactly if it is valid. -/
theorem step_answers (rule : String) (p : Param Kind) (lists : ListRules) :
    Answers (ValidShape tokens d p.shape) (RefusesParam tokens d rule p)
      (cx.step rule p lists).outcome := by
  unfold step
  cases hshape : p.shape with
  | terminal ts optional =>
    have hterminal := cx.terminal_answers rule p.name ts
    rw [htokens] at hterminal
    refine (hterminal.weaken (fun h => ?_) fun e he => ?_).map fun h => h
    · exact ⟨nofun, h.2, fun o heq => h.1 (by cases heq; rfl)⟩
    · obtain ⟨rfl, rfl⟩ | ⟨t, ht, hunknown, rfl⟩ := he
      · exact .emptyTerminal hshape
      · exact .unknownToken (by rw [hshape]; exact ht) hunknown
  | nonTerminal k cap optional =>
    have halternatives : Answers (d.Produces k cap) (RefusesParam tokens d rule p)
        (cx.alternatives rule p.name k cap) :=
      alternatives_answers hn hranks hkinds rule (by rw [hshape]; rfl)
    refine halternatives.map fun hproduces => ⟨?_, nofun, nofun⟩
    rintro k' cap' ⟨⟩
    exact hproduces
  | list element maxRank min delimiter =>
    have hplan := listPlan_answers hn hranks hkinds htokens rule hshape
    dsimp only
    cases hl : cx.listPlan rule p.name element maxRank min delimiter with
    | error e =>
      rw [hl] at hplan
      exact hplan
    | ok l =>
      rw [hl] at hplan
      obtain ⟨hproduces, hcontains⟩ := hplan
      refine ⟨?_, fun t ht => ?_, nofun⟩
      · rintro k' cap' ⟨⟩
        exact hproduces
      · obtain ⟨δ, hδ, rfl⟩ := Option.map_eq_some_iff.mp (Option.mem_toList.mp ht)
        exact hcontains δ hδ

/-- The steps of a variant are there exactly if the parameters that it keeps are valid. -/
theorem steps_answers (rule : String) (kept : Nat) (lists : ListRules) (ps : List (Param Kind)) :
    Answers (∀ p ∈ keptParams kept ps, ValidShape tokens d p.shape)
      (fun e => ∃ p ∈ ps, RefusesParam tokens d rule p e)
      (cx.steps rule kept lists ps).outcome := by
  induction ps generalizing kept lists with
  | nil => exact fun p hp => absurd hp List.not_mem_nil
  | cons p ps ih =>
    have hrest : ∀ kept lists, Answers (∀ q ∈ keptParams kept ps, ValidShape tokens d q.shape)
        (fun e => ∃ q ∈ p :: ps, RefusesParam tokens d rule q e)
        (cx.steps rule kept lists ps).outcome := by
      refine fun kept lists => (ih kept lists).weaken (fun h => h) fun e he => ?_
      obtain ⟨q, hq, he⟩ := he
      exact ⟨q, List.mem_cons_of_mem p hq, he⟩
    unfold steps
    rw [keptParams_cons]
    dsimp only
    split
    · have hstep := step_answers hn hranks hkinds htokens rule p lists
      rw [Journaled.outcome_bind]
      refine (hstep.weaken (fun h => h) fun e he => ⟨p, List.mem_cons_self, he⟩).bind
        fun made _ hvalid => ?_
      exact (hrest _ made.2).map fun hall => List.forall_mem_cons.mpr ⟨hvalid, hall⟩
    · exact (hrest _ lists).map fun hall => hall

/-- The rules of some variants are there exactly if the parameters that these keep are
valid. -/
theorem rules_answers (id : RuleId) (lists : ListRules) (variants : List Variant) :
    Answers (∀ v ∈ variants, ∀ r, d.rules[v.decl]? = some r →
        ∀ p ∈ keptParams v.kept r.params, ValidShape tokens d p.shape)
      (fun e => ∃ r ∈ d.rules, ∃ p ∈ r.params, RefusesParam tokens d r.action p e)
      (cx.rules d.rules id lists variants).outcome := by
  induction variants generalizing id lists with
  | nil => exact fun v hv => absurd hv List.not_mem_nil
  | cons v variants ih =>
    unfold rules
    split
    · next hnone =>
      refine (ih _ _).weaken (fun hall => ?_) fun e he => he
      refine List.forall_mem_cons.mpr ⟨fun r hr => ?_, hall⟩
      rw [hnone] at hr
      cases hr
    · next r hr =>
      have hsteps := steps_answers hn hranks hkinds htokens r.action v.kept lists r.params
      have hrule : Answers (∀ p ∈ keptParams v.kept r.params, ValidShape tokens d p.shape)
          (fun e => ∃ r ∈ d.rules, ∃ p ∈ r.params, RefusesParam tokens d r.action p e)
          (cx.rule id v r lists).outcome := by
        unfold rule
        rw [Journaled.outcome_bind]
        refine (hsteps.weaken (fun h => h) fun e he => ?_).bind fun made _ hvalid => hvalid
        exact ⟨r, List.mem_of_getElem? hr, he⟩
      rw [Journaled.outcome_bind]
      refine hrule.bind fun made _ hvalid => (ih _ made.2).map fun hall => ?_
      refine List.forall_mem_cons.mpr ⟨fun r' hr' => ?_, hall⟩
      rw [hr] at hr'
      cases hr'
      exact hvalid

end Parameters
end Context

/-! ## The whole declaration -/

theorem require_answers {α : Type} {Q : CompileError → Prop} {e : CompileError} {a? : Option α}
    (h : a? = none → Q e) : Answers (∃ a, a? = some a) Q (Journaled.require e a?).outcome := by
  rw [Journaled.outcome_require]
  cases a? with
  | none => exact h rfl
  | some a => exact ⟨a, rfl⟩

/-- Every rule has a variant that keeps all of its parameters. -/
theorem validShape_of_variants {maxOptionals first : Nat} {n : Numbering}
    (hn : (numberAll d first maxOptionals).outcome = .ok n)
    (h : ∀ v ∈ n.variants, ∀ r, d.rules[v.decl]? = some r →
      ∀ p ∈ keptParams v.kept r.params, ValidShape tokens d p.shape) :
    ∀ r ∈ d.rules, ∀ p ∈ r.params, ValidShape tokens d p.shape := by
  intro r hr p hp
  obtain ⟨i, hi⟩ := List.getElem?_of_mem hr
  have hpos : 0 < 2 ^ r.optionalCount := Nat.two_pow_pos _
  have hmem := ((numberFrom_lists RankIndex.valid_empty hn).mem_variants
    ⟨i, 2 ^ r.optionalCount - 1⟩).mpr ⟨i, r, hi, (Nat.zero_add i).symm, by dsimp only; omega⟩
  refine h _ hmem r hi p ?_
  rw [RuleDecl.optionalCount, keptParams_all]
  exact hp

/-- Each stage of compilation answers for what it needs. -/
theorem compile_answers (options : Options) (tokens : TokenTable) (d : Declaration)
    (start : String) :
    Answers (Valid options tokens d start) (Refuses options tokens d start)
      (compile options tokens d start).outcome := by
  have hnumbering : Answers (∀ r ∈ d.rules, r.optionalCount ≤ min options.maxOptionals 31)
      (Refuses options tokens d start) (numberAll d tokens.size options.maxOptionals).outcome := by
    refine (numberFrom_answers ..).weaken (fun h => h) fun e he => ?_
    obtain ⟨r, hr, hlt, rfl⟩ := he
    exact .tooManyOptionals hr hlt
  have hnamed : d.kinds.get? start = none →
      Refuses options tokens d start (.unknownStartKind start) := fun hnone =>
    .unknownStartKind fun k hk => by rw [hnone] at hk; cases hk
  unfold compile
  simp only [Journaled.outcome_bind]
  refine (require_answers .missingEndOfStream).bind fun eos _ hend => ?_
  refine (require_answers hnamed).bind fun startKind hstart _ => ?_
  have hstart := Journaled.require_ok_iff.mp hstart
  refine hnumbering.bind fun n hn hoptionals => ?_
  let cx : Context := ⟨tokens, tokens.substitutes, d.kinds, n.ranks⟩
  have hrules : Answers _ _ (cx.rules d.rules tokens.size
      (.startingAt (tokens.size + n.variants.length)) n.variants).outcome :=
    Context.rules_answers hn rfl rfl rfl _ _ _
  refine (hrules.weaken (fun h => h) fun e he => ?_).bind fun made _ hparams => ?_
  · obtain ⟨r, hr, p, hp, he⟩ := he
    exact .param hr hp he
  have hproduced : n.ranks.rulesOfKind? startKind none = none →
      Refuses options tokens d start (.unknownStartKind start) := by
    refine fun hnone => .unknownStartKind fun k hk => ?_
    rw [hstart] at hk
    cases hk
    exact not_produces_of_rulesOfKind hn hnone
  obtain ⟨declared, lists⟩ := made
  simp only [Journaled.outcome_tell]
  refine (require_answers hproduced).bind fun initial _ hinitial => ?_
  obtain ⟨rules, hinitial⟩ := hinitial
  exact ⟨hend, ⟨startKind, hstart, produces_of_rulesOfKind hn hinitial⟩, hoptionals,
    validShape_of_variants hn hparams⟩

end Compile
end GrammarKit
