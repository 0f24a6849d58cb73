import GrammarKit.Proofs.Compile.LongLists
import GrammarKit.Proofs.Compile.WellFormed
import Mathlib.Data.Nat.Bitwise

/-!
# Every choice of optional parameters

A declared rule with `k` optional parameters becomes `2 ^ k` rules, which stand together in
the order of the declarations (`Grammar.Enumerates`). Their marks run through all choices,
as the binary numbers below `2 ^ k` do. The bits are read off one by one while required
parameters stand in between, so what decides about a parameter is the bit that is as far up
as there are optional parameters before it (`getElem?_keptArgs`).
-/
namespace GrammarKit

/-- Place of the declaration that a rule comes from, if it was declared. -/
def Origin.decl? : Origin → Option Nat
  | .declared _ decl => some decl
  | _ => none

/-- Number of optional parameters among the first `m`. -/
def optionalsBefore (ps : List (Param Kind)) (m : Nat) : Nat :=
  ((ps.take m).filter (·.shape.isOptional)).length

/-- Number of choices that the declarations before a place leave. -/
def Declaration.choicesBefore (d : Declaration) (decl : Nat) : Nat :=
  ((d.rules.take decl).map fun r => 2 ^ r.optionalCount).sum

namespace Grammar

variable (g : Grammar)

/-- The rules that come from the declaration at a place. -/
def rulesOfDecl (decl : Nat) : List Rule := g.rules.filter (·.origin.decl? = some decl)

/-- The steps of all declared rules, with the parameters that they stand for. -/
def uses (d : Declaration) : List (Param Kind × Step) := g.rules.flatMap (·.uses d.rules)

/-- The rules that come from a declaration are its choices of optional parameters. Steps are
accepted by the shape of their parameter. -/
structure Enumerates (d : Declaration) (accepted : Shape Kind → Step) (decl : Nat)
    (dcl : RuleDecl) : Prop where
  /-- There is a rule for each choice; ids go on from those of earlier declarations. -/
  ids : (g.rulesOfDecl decl).map (·.id) =
    List.range' (g.tokenCount + d.choicesBefore decl) (2 ^ dcl.optionalCount)
  origin : ∀ r ∈ g.rulesOfDecl decl, r.origin = .declared dcl.action decl
  ranked : ∀ r ∈ g.rulesOfDecl decl, r.ranked = dcl.ranked
  length_args : ∀ r ∈ g.rulesOfDecl decl, r.args.length = dcl.params.length
  /-- A parameter is present if it is required or its bit is set. -/
  args : ∀ (i : Nat) r, (g.rulesOfDecl decl)[i]? = some r → ∀ (m : Nat) p, dcl.params[m]? = some p →
    r.args[m]? = some (!p.shape.isOptional || i.testBit (optionalsBefore dcl.params m))
  nodup_args : ((g.rulesOfDecl decl).map (·.args)).Nodup
  /-- There is a step for each parameter that is present. -/
  steps : ∀ r ∈ g.rulesOfDecl decl, List.Forall₂
    (fun p st => if p.shape.isLong then
        ∃ r' ∈ g.rules, r'.origin = .listLeading ∧ st = .nonTerminal [r'.id]
      else st = accepted p.shape) (dcl.present r.args) r.steps

end Grammar

/-- If exactly the elements between two places pass, these are what is left. -/
theorem filter_eq_take_drop {α : Type} {P : α → Bool} {l : List α} {a n : Nat}
    (h : ∀ (j : Nat) r, l[j]? = some r → (P r = true ↔ a ≤ j ∧ j < a + n)) :
    l.filter P = (l.drop a).take n := by
  have hsplit : l = l.take a ++ ((l.drop a).take n ++ (l.drop a).drop n) := by
    rw [List.take_append_drop, List.take_append_drop]
  have hfront : (l.take a).filter P = [] := by
    refine List.filter_eq_nil_iff.mpr fun r hr hP => ?_
    obtain ⟨j, hj⟩ := List.getElem?_of_mem hr
    rw [List.getElem?_take] at hj
    split at hj
    · have := (h j r hj).mp hP
      omega
    · cases hj
  have hback : ((l.drop a).drop n).filter P = [] := by
    refine List.filter_eq_nil_iff.mpr fun r hr hP => ?_
    obtain ⟨j, hj⟩ := List.getElem?_of_mem hr
    rw [List.getElem?_drop, List.getElem?_drop] at hj
    have := (h _ r hj).mp hP
    omega
  have hmid : ((l.drop a).take n).filter P = (l.drop a).take n := by
    refine List.filter_eq_self.mpr fun r hr => ?_
    obtain ⟨j, hj⟩ := List.getElem?_of_mem hr
    rw [List.getElem?_take] at hj
    split at hj
    · rw [List.getElem?_drop] at hj
      exact (h _ r hj).mpr (by omega)
    · cases hj
  conv_lhs => rw [hsplit]
  rw [List.filter_append, List.filter_append, hfront, hmid, hback, List.append_nil,
    List.nil_append]

namespace Compile

/-! ## Marks -/

theorem length_keptArgs (kept : Nat) (ps : List (Param Kind)) :
    (keptArgs kept ps).length = ps.length := by
  induction ps generalizing kept with
  | nil => rfl
  | cons p ps ih =>
    rw [keptArgs]
    split
    · rw [List.length_cons, List.length_cons, ih]
    · rw [List.length_cons, List.length_cons, ih]

/-- The bit of an optional parameter is as far up as there are optional ones before it. -/
theorem getElem?_keptArgs {ps : List (Param Kind)} {m : Nat} {p : Param Kind}
    (hp : ps[m]? = some p) (kept : Nat) : (keptArgs kept ps)[m]? =
      some (!p.shape.isOptional || kept.testBit (optionalsBefore ps m)) := by
  induction ps generalizing m kept with
  | nil => cases hp
  | cons q ps ih =>
    cases m with
    | zero =>
      cases hp
      rw [keptArgs, optionalsBefore, List.take_zero, List.filter_nil, List.length_nil,
        Nat.testBit_zero]
      cases p.shape.isOptional <;> rfl
    | succ m =>
      have hrest : ∀ kept, _ := ih (m := m) hp
      have hbefore : optionalsBefore (q :: ps) (m + 1) =
          optionalsBefore ps m + if q.shape.isOptional then 1 else 0 := by
        by_cases hq : q.shape.isOptional <;> simp [optionalsBefore, hq]
      rw [keptArgs, hbefore]
      cases hq : q.shape.isOptional with
      | false =>
        rw [if_neg (by simp), List.getElem?_cons_succ, hrest]
        rfl
      | true =>
        rw [if_pos rfl, if_pos rfl, List.getElem?_cons_succ, hrest, Nat.testBit_succ]

/-- Different choices have different marks. -/
theorem keptArgs_inj {ps : List (Param Kind)} {kept kept' : Nat}
    (hlt : kept < 2 ^ (ps.filter (·.shape.isOptional)).length)
    (hlt' : kept' < 2 ^ (ps.filter (·.shape.isOptional)).length)
    (h : keptArgs kept ps = keptArgs kept' ps) : kept = kept' := by
  induction ps generalizing kept kept' with
  | nil =>
    rw [List.filter_nil, List.length_nil, Nat.pow_zero] at hlt hlt'
    omega
  | cons p ps ih =>
    rw [keptArgs, keptArgs] at h
    by_cases hp : p.shape.isOptional
    · simp only [List.filter_cons, hp, if_true, List.length_cons, Nat.pow_succ] at hlt hlt'
      rw [if_pos hp, if_pos hp] at h
      obtain ⟨hbit, hrest⟩ := List.cons.inj h
      have hhalf := ih (by omega) (by omega) hrest
      have hparity := decide_eq_decide.mp hbit
      omega
    · simp only [List.filter_cons, hp] at hlt hlt'
      rw [if_neg hp, if_neg hp] at h
      exact ih hlt hlt' (List.cons.inj h).2

/-! ## Places -/

/-- The variants of a declaration stand together, behind those of earlier declarations. -/
theorem numberFrom_split {maxOptionals decl : Nat} {id : RuleId} {ranks : RankIndex}
    {rules : List RuleDecl} {n : Numbering} (hv : ranks.Valid)
    (h : (numberFrom maxOptionals decl id ranks rules).outcome = .ok n) {i : Nat} {r : RuleDecl}
    (hr : rules[i]? = some r) : ∃ before after,
      n.variants = before ++ (variantsOf (decl + i) r ++ after) ∧
      before.length = ((rules.take i).map fun r => 2 ^ r.optionalCount).sum ∧
      (∀ v ∈ before, v.decl < decl + i) ∧ ∀ v ∈ after, decl + i < v.decl := by
  induction rules generalizing decl id ranks n i with
  | nil => cases hr
  | cons q rules ih =>
    obtain ⟨later, hlater, rfl⟩ := numberFrom_cons_ok h
    have hvalid := RankIndex.valid_add hv q.ranked (List.range' id (2 ^ q.optionalCount))
    cases i with
    | zero =>
      cases hr
      refine ⟨[], later.variants, rfl, rfl, nofun, fun v hmem => ?_⟩
      obtain ⟨i, r', -, hdecl, -⟩ := ((numberFrom_lists hvalid hlater).mem_variants v).mp hmem
      omega
    | succ i =>
      obtain ⟨before, after, hvariants, hlen, hbefore, hafter⟩ := ih hvalid hlater hr
      rw [show decl + 1 + i = decl + (i + 1) by omega] at hvariants hbefore hafter
      refine ⟨variantsOf decl q ++ before, after, ?_, ?_, ?_, hafter⟩
      · rw [hvariants, List.append_assoc]
      · rw [List.length_append, length_variantsOf, hlen, List.take_succ_cons, List.map_cons,
          List.sum_cons]
      · intro v hmem
        rcases List.mem_append.mp hmem with hmem | hmem
        · rw [(mem_variantsOf_iff.mp hmem).1]
          omega
        · exact hbefore v hmem

namespace Parts.Made

variable {p : Parts} {options : Options} {tokens : TokenTable} {d : Declaration}
  (hp : p.Made options tokens d) {decl : Nat} {dcl : RuleDecl}
include hp

/-- The variants of a declaration by their places. -/
theorem variants_places (hdcl : d.rules[decl]? = some dcl) :
    (∀ i < 2 ^ dcl.optionalCount,
        p.numbering.variants[d.choicesBefore decl + i]? = some ⟨decl, i⟩) ∧
      ∀ j v, p.numbering.variants[j]? = some v →
        (v.decl = decl ↔ d.choicesBefore decl ≤ j ∧
          j < d.choicesBefore decl + 2 ^ dcl.optionalCount) := by
  obtain ⟨before, after, hvariants, hlen, hbefore, hafter⟩ :=
    numberFrom_split RankIndex.valid_empty hp.numbering_eq hdcl
  have hlen : before.length = d.choicesBefore decl := hlen
  rw [Nat.zero_add] at hvariants hbefore hafter
  have hcount : (variantsOf decl dcl).length = 2 ^ dcl.optionalCount := length_variantsOf
  rw [hvariants, ← hlen]
  refine ⟨fun i hi => ?_, fun j v hj => ?_⟩
  · rw [List.getElem?_append_right (Nat.le_add_right _ _), Nat.add_sub_cancel_left,
      List.getElem?_append_left (by omega)]
    simp [variantsOf, hi]
  · rcases Nat.lt_or_ge j before.length with hlt | hge
    · rw [List.getElem?_append_left hlt] at hj
      have := hbefore v (List.mem_of_getElem? hj)
      omega
    · rw [List.getElem?_append_right hge] at hj
      rcases Nat.lt_or_ge (j - before.length) (2 ^ dcl.optionalCount) with hlt | hge'
      · rw [List.getElem?_append_left (by omega)] at hj
        have := (mem_variantsOf_iff.mp (List.mem_of_getElem? hj)).1
        omega
      · rw [List.getElem?_append_right (by omega)] at hj
        have := hafter v (List.mem_of_getElem? hj)
        omega

end Parts.Made

/-- The rule of a variant keeps the parameters that the variant keeps, and has a step for
each of them. -/
structure Parts.Renders (p : Parts) (tokens : TokenTable) (d : Declaration) (v : Variant)
    (dcl : RuleDecl) (r : Rule) : Prop where
  origin : r.origin = .declared dcl.action v.decl
  ranked : r.ranked = dcl.ranked
  args : r.args = keptArgs v.kept dcl.params
  steps : List.Forall₂ (fun q st => Lowers (p.context tokens d) p.lists q.shape st)
    (dcl.present r.args) r.steps

namespace Parts.Made

variable {p : Parts} {options : Options} {tokens : TokenTable} {d : Declaration}
  (hp : p.Made options tokens d) {decl : Nat} {dcl : RuleDecl}
include hp

theorem renders {j : Nat} {v : Variant} (hv : p.numbering.variants[j]? = some v)
    (hdcl : d.rules[v.decl]? = some dcl) {r : Rule} (hr : p.declared[j]? = some r) :
    p.Renders tokens d v dcl r := by
  obtain ⟨hlt, rfl⟩ := List.getElem?_eq_some_iff.mp hv
  obtain ⟨hlt', rfl⟩ := List.getElem?_eq_some_iff.mp hr
  obtain ⟨dcl', hdcl', hranked, horigin⟩ :=
    (Context.rules_ofVariant hp.exists_decl hp.rules_eq).get hlt hlt'
  have hargs := (Context.rules_args hp.exists_decl hp.rules_eq).get hlt hlt' dcl hdcl
  obtain ⟨decl, dcl'', hget, horigin', hlowers⟩ := hp.declared_descends _ (List.getElem_mem hlt')
  -- three lemmas speak of a declaration, which is the same one
  cases hdcl.symm.trans hdcl'
  obtain ⟨-, rfl⟩ := Origin.declared.inj (horigin.symm.trans horigin')
  cases hdcl.symm.trans hget
  exact ⟨horigin, hranked, hargs, hlowers⟩

variable (eos : TokenId)

/-- Token sets do not matter to what a rule is made of. -/
theorem exists_renders {j : Nat} {v : Variant} (hv : p.numbering.variants[j]? = some v)
    (hdcl : d.rules[v.decl]? = some dcl) :
    ∃ r, (settledRules tokens.size eos p.rules)[j]? = some r ∧ r.id = tokens.size + j ∧
      p.Renders tokens d v dcl r := by
  have hlt : j < p.declared.length := by
    rw [hp.good.length_declared]
    exact (List.getElem?_eq_some_iff.mp hv).1
  have hr : p.declared[j]? = some p.declared[j] := List.getElem?_eq_getElem hlt
  have hplace : p.rules[j]? = some p.declared[j] := by
    rw [Parts.rules, List.getElem?_append_left hlt, hr]
  have hrenders := hp.renders hv hdcl hr
  refine ⟨settledRule tokens.size eos p.rules j p.declared[j], ?_, ?_, ?_, ?_, ?_, ?_⟩
  · rw [getElem?_settledRules, hplace, Option.map_some]
  · rw [settledRule_id, hp.good.id_eq hplace]
  · rw [settledRule_origin, hrenders.origin]
  · rw [settledRule_ranked, hrenders.ranked]
  · rw [settledRule_args, hrenders.args]
  · rw [settledRule_args, settledRule_steps]
    exact hrenders.steps

/-- The rules of a declaration stand at the places of its variants. -/
theorem decl?_eq_some_iff (hdcl : d.rules[decl]? = some dcl) {j : Nat} {r : Rule}
    (hr : (settledRules tokens.size eos p.rules)[j]? = some r) :
    r.origin.decl? = some decl ↔
      d.choicesBefore decl ≤ j ∧ j < d.choicesBefore decl + 2 ^ dcl.optionalCount := by
  obtain ⟨hplaces, hdecl⟩ := hp.variants_places hdcl
  rcases Nat.lt_or_ge j p.numbering.variants.length with hlt | hge
  · have hv := List.getElem?_eq_getElem hlt
    obtain ⟨dcl', hdcl'⟩ := hp.exists_decl _ (List.getElem_mem hlt)
    obtain ⟨r', hr', -, hrenders⟩ := hp.exists_renders eos hv hdcl'
    rw [hr] at hr'
    cases hr'
    rw [hrenders.origin, ← hdecl j _ hv]
    exact Option.some_inj
  · -- behind the variants stand the rules that were made for lists
    obtain ⟨r', hr', rfl⟩ := exists_of_getElem?_settledRules hr
    rw [Parts.rules, List.getElem?_append_right (hp.good.length_declared ▸ hge)] at hr'
    have hsynthetic := hp.lists_synthetic r' (List.mem_of_getElem? hr')
    have hnone : r'.origin.decl? = none := by
      cases horigin : r'.origin with
      | declared action decl =>
        rw [horigin] at hsynthetic
        cases hsynthetic
      | listLast => rfl
      | listMore => rfl
      | listLeading => rfl
    rw [settledRule_origin, hnone]
    refine ⟨fun h => absurd h (by simp), fun hj => ?_⟩
    have hlast := hplaces (2 ^ dcl.optionalCount - 1)
      (Nat.sub_lt (Nat.two_pow_pos _) Nat.one_pos)
    obtain ⟨hlt, -⟩ := List.getElem?_eq_some_iff.mp hlast
    omega

/-- The rules of a declaration, one for each choice. -/
theorem getElem?_rulesOfDecl (hdcl : d.rules[decl]? = some dcl) (i : Nat) :
    ((settledRules tokens.size eos p.rules).filter (·.origin.decl? = some decl))[i]? =
      if i < 2 ^ dcl.optionalCount then
        (settledRules tokens.size eos p.rules)[d.choicesBefore decl + i]?
      else none := by
  rw [filter_eq_take_drop fun j r hr => by
    rw [decide_eq_true_eq]
    exact hp.decl?_eq_some_iff eos hdcl hr]
  rw [List.getElem?_take, List.getElem?_drop]

theorem renders_of_rulesOfDecl (hdcl : d.rules[decl]? = some dcl) {i : Nat} {r : Rule}
    (hr : ((settledRules tokens.size eos p.rules).filter
      (·.origin.decl? = some decl))[i]? = some r) :
    i < 2 ^ dcl.optionalCount ∧ r.id = tokens.size + (d.choicesBefore decl + i) ∧
      p.Renders tokens d ⟨decl, i⟩ dcl r := by
  rw [hp.getElem?_rulesOfDecl eos hdcl] at hr
  by_cases hi : i < 2 ^ dcl.optionalCount
  · rw [if_pos hi] at hr
    obtain ⟨r', hr', hid, hrenders⟩ :=
      hp.exists_renders eos ((hp.variants_places hdcl).1 i hi) hdcl
    rw [hr] at hr'
    cases hr'
    exact ⟨hi, hid, hrenders⟩
  · rw [if_neg hi] at hr
    cases hr

/-- What can be read off a rule can be read off its choice. -/
theorem map_rulesOfDecl {β : Type} {f : Rule → β} {k : Nat → β}
    (hdcl : d.rules[decl]? = some dcl)
    (hf : ∀ i r, r.id = tokens.size + (d.choicesBefore decl + i) →
      p.Renders tokens d ⟨decl, i⟩ dcl r → f r = k i) :
    ((settledRules tokens.size eos p.rules).filter (·.origin.decl? = some decl)).map f =
      (List.range (2 ^ dcl.optionalCount)).map k := by
  refine List.ext_getElem? fun i => ?_
  rw [List.getElem?_map, List.getElem?_map, hp.getElem?_rulesOfDecl eos hdcl]
  by_cases hi : i < 2 ^ dcl.optionalCount
  · obtain ⟨r, hr, hid, hrenders⟩ :=
      hp.exists_renders eos ((hp.variants_places hdcl).1 i hi) hdcl
    rw [if_pos hi, hr, List.getElem?_range hi, Option.map_some, Option.map_some,
      hf i r hid hrenders]
  · rw [if_neg hi, List.getElem?_eq_none (by rw [List.length_range]; omega)]
    rfl

/-- Rules keep their uses when they learn their tokens, and rules made for lists have none. -/
theorem uses_settledRules : (settledRules tokens.size eos p.rules).flatMap (·.uses d.rules) =
    p.declared.flatMap (·.uses d.rules) := by
  have hsettled : (settledRules tokens.size eos p.rules).flatMap (·.uses d.rules) =
      p.rules.flatMap (·.uses d.rules) := by
    rw [settledRules, List.flatMap_map, ← List.zipIdx_map_fst 0 p.rules, List.flatMap_map,
      List.zipIdx_map_fst]
    refine List.flatMap_congr fun q hq => ?_
    rw [Rule.uses, Rule.uses, settledRule_origin, settledRule_args, settledRule_steps]
  have hnil : p.lists.rules.flatMap (·.uses d.rules) = [] :=
    List.flatMap_eq_nil_iff.mpr fun r hr => Rule.uses_of_synthetic (hp.lists_synthetic r hr) _
  rw [hsettled, Parts.rules, List.flatMap_append, hnil, List.append_nil]

/-- Each step is accepted by the shape of its parameter, or is that of a long list. -/
theorem forall₂_steps {i : Nat} {r : Rule} (hdcl : d.rules[decl]? = some dcl)
    (hr : r ∈ settledRules tokens.size eos p.rules)
    (hrenders : p.Renders tokens d ⟨decl, i⟩ dcl r) :
    List.Forall₂ (fun q st => if q.shape.isLong then
        ∃ r' ∈ settledRules tokens.size eos p.rules,
          r'.origin = .listLeading ∧ st = .nonTerminal [r'.id]
      else st = (p.context tokens d).accepted p.lists q.shape) (dcl.present r.args) r.steps := by
  obtain ⟨hlen, hlowers⟩ := List.forall₂_iff_zip.mp hrenders.steps
  refine List.forall₂_iff_zip.mpr ⟨hlen, fun {q st} hmem => ?_⟩
  by_cases hlong : q.shape.isLong
  · rw [if_pos hlong]
    have huse : (q, st) ∈ p.declared.flatMap (·.uses d.rules) := by
      rw [← hp.uses_settledRules eos]
      refine List.mem_flatMap.mpr ⟨r, hr, ?_⟩
      rw [Rule.uses_of_declared hrenders.origin hdcl]
      exact hmem
    obtain ⟨r', hr', horigin, hst⟩ := hp.apart.own st (mem_longSteps huse hlong)
    obtain ⟨r'', hr'', hid, horigin', -⟩ :=
      exists_settled tokens.size eos (List.mem_append_right p.declared hr')
    exact ⟨r'', hr'', horigin'.trans horigin, by rw [hid, hst]⟩
  · rw [if_neg hlong]
    exact (hlowers hmem).eq_accepted (by simpa using hlong)

/-- A grammar with these rules has every choice of a declaration. -/
theorem enumerates {g : Grammar} (hcount : g.tokenCount = tokens.size)
    (hrules : g.rules = settledRules tokens.size g.endOfStream p.rules)
    (hdcl : d.rules[decl]? = some dcl) :
    g.Enumerates d ((p.context tokens d).accepted p.lists) decl dcl := by
  have hfilter : g.rulesOfDecl decl = (settledRules tokens.size g.endOfStream p.rules).filter
      (·.origin.decl? = some decl) := by rw [Grammar.rulesOfDecl, hrules]
  have hrenders : ∀ {i r}, (g.rulesOfDecl decl)[i]? = some r →
      p.Renders tokens d ⟨decl, i⟩ dcl r := by
    intro i r hr
    rw [hfilter] at hr
    exact (hp.renders_of_rulesOfDecl _ hdcl hr).2.2
  have hmem : ∀ r ∈ g.rulesOfDecl decl, ∃ i, p.Renders tokens d ⟨decl, i⟩ dcl r := by
    intro r hr
    obtain ⟨i, hi⟩ := List.getElem?_of_mem hr
    exact ⟨i, hrenders hi⟩
  constructor
  case ids =>
    rw [hfilter, hp.map_rulesOfDecl _ hdcl (k := fun i => tokens.size + (d.choicesBefore decl + i))
      fun i r hid _ => hid, hcount, List.range'_eq_map_range]
    exact List.map_congr_left fun i _ => (Nat.add_assoc _ _ i).symm
  case origin =>
    intro r hr
    obtain ⟨i, hr⟩ := hmem r hr
    exact hr.origin
  case ranked =>
    intro r hr
    obtain ⟨i, hr⟩ := hmem r hr
    exact hr.ranked
  case length_args =>
    intro r hr
    obtain ⟨i, hr⟩ := hmem r hr
    rw [hr.args, length_keptArgs]
  case args =>
    intro i r hr m q hq
    rw [(hrenders hr).args, getElem?_keptArgs hq]
  case nodup_args =>
    rw [hfilter, hp.map_rulesOfDecl _ hdcl (k := fun i => keptArgs i dcl.params)
      fun i r _ hr => hr.args]
    refine List.nodup_range.map_on fun i hi i' hi' heq => ?_
    exact keptArgs_inj (List.mem_range.mp hi) (List.mem_range.mp hi') heq
  case steps =>
    intro r hr
    obtain ⟨i, hrender⟩ := hmem r hr
    rw [hrules]
    exact hp.forall₂_steps _ hdcl (hrules ▸ (List.mem_filter.mp hr).1) hrender

end Parts.Made

/-- **Variants.** Every choice of the optional parameters of a declared rule becomes one rule
of the compiled grammar. What stands for a parameter is the same in all of these rules, but
for long lists, which never share a step. -/
theorem variants_enumerated {options : Options} {tokens : TokenTable} {d : Declaration}
    {start : String} {g : Grammar} (h : (compile options tokens d start).outcome = .ok g) :
    (∃ accepted, ∀ decl dcl, d.rules[decl]? = some dcl → g.Enumerates d accepted decl dcl) ∧
      (longSteps (g.uses d)).Nodup := by
  obtain ⟨p, hp, -, -, -, hg⟩ := compile_made h
  have hrules : g.rules = settledRules tokens.size g.endOfStream p.rules :=
    congrArg Grammar.rules hg
  have hcount : g.tokenCount = tokens.size := congrArg Grammar.tokenCount hg
  have huses : g.uses d = p.declared.flatMap (·.uses d.rules) := by
    rw [Grammar.uses, hrules, hp.uses_settledRules]
  refine ⟨⟨(p.context tokens d).accepted p.lists, fun decl dcl hdcl => ?_⟩, ?_⟩
  · exact hp.enumerates hcount hrules hdcl
  · rw [huses]
    exact hp.apart.nodup

/-- Phrases of at least three items; a comma may stand before them, and another one after. -/
def phrases : Declaration where
  kinds := ⟨["phrase", "item"]⟩
  rules := [⟨"item", 1, 0, [⟨"word", .terminal [1] false⟩]⟩,
    ⟨"phrase", 0, 0, [⟨"before", .terminal [2] true⟩, ⟨"items", .list 1 none 3 none⟩,
      ⟨"after", .terminal [2] true⟩]⟩]

/-- Phrases make four rules behind the one for items. The third of these has the comma after
the items only, and the lists of items do not share a step. -/
theorem variants_of_phrases : ∃ g,
    (compile .default enumerationTokens phrases "phrase").outcome = .ok g ∧
      (g.rulesOfDecl 1).map (·.id) = [4, 5, 6, 7] ∧
      (∀ r, (g.rulesOfDecl 1)[2]? = some r → r.args[0]? = some false ∧ r.args[2]? = some true) ∧
      (longSteps (g.uses phrases)).Nodup := by
  have heval : (compile .default enumerationTokens phrases "phrase").outcome.map
      (·.tokenCount) = .ok 3 := by cbv
  cases h : (compile .default enumerationTokens phrases "phrase").outcome with
  | error e =>
    rw [h] at heval
    cases heval
  | ok g =>
    rw [h] at heval
    have hcount : g.tokenCount = 3 := Except.ok.inj heval
    obtain ⟨⟨accepted, hall⟩, hnodup⟩ := variants_enumerated h
    have hphrase := hall 1 _ rfl
    refine ⟨g, rfl, ?_, fun r hr => ⟨?_, ?_⟩, hnodup⟩
    · rw [hphrase.ids, hcount]
      decide
    · rw [hphrase.args 2 r hr 0 _ rfl]
      decide
    · rw [hphrase.args 2 r hr 2 _ rfl]
      decide

end Compile
end GrammarKit
