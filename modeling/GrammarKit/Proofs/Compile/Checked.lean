import GrammarKit.Proofs.Compile.Grammar
import GrammarKit.Proofs.Fault

/-!
# Compilation without faults

On its way, compilation relies on operations that do not answer for everything: rules
are bound to ranked types that are registered, steps are made of alternatives of which
there must be some, declarations and rules are looked up in their places, and the parts
of a grammar must have dense ids. `Checked.compile` is compilation with all of these
checked, so that it can fail in two ways, with an error or with a fault.

`Checked.compile_eq`: it fails with errors only, and is otherwise what `compile` is.
Each operation has a lemma that says when it does not fault, and each function one
that says that it is the plain one.
-/
namespace GrammarKit

theorem Step.ofTokens_of_ne_nil {ts : List TokenId} (h : ts ≠ []) :
    Step.ofTokens ts = .ok (.terminal ts) :=
  if_neg (by simpa using h)

theorem Step.ofRules_of_ne_nil {rs : List RuleId} (h : rs ≠ []) :
    Step.ofRules rs = .ok (.nonTerminal rs) :=
  if_neg (by simpa using h)

namespace Compile

namespace Checked

/-! ## Numbering -/

/-- Numbers the variants of the rules from place `decl` on: registers the ranked type of
each rule and binds the ids of its variants to it. -/
def numberFrom (maxOptionals : Nat) (decl : Nat) (id : RuleId) (ranks : RankIndex) :
    List RuleDecl → Except (Failure CompileError) Numbering
  | [] => .ok ⟨ranks, []⟩
  | r :: rest => do
    let registered := ranks.register r.ranked
    let type ← Failure.ofFault (require .outOfRange (registered.id? r.ranked))
    let count ← Failure.ofError (Journaled.require
      (.tooManyOptionals r.action r.optionalCount maxOptionals)
      (variantCount? maxOptionals r)).outcome
    let ranks ← Failure.ofFault
      ((List.range' id count).foldlM (fun x rule => x.pushRule type rule) registered)
    let later ← numberFrom maxOptionals (decl + 1) (id + count) ranks rest
    .ok ⟨later.ranks, ((List.range count).map fun kept => ⟨decl, kept⟩) ++ later.variants⟩

/-- Every ranked type is registered when rules are bound to it. -/
theorem numberFrom_eq (maxOptionals decl : Nat) (id : RuleId) (ranks : RankIndex)
    (rules : List RuleDecl) : numberFrom maxOptionals decl id ranks rules =
      Failure.ofError (Compile.numberFrom maxOptionals decl id ranks rules).outcome := by
  induction rules generalizing decl id ranks with
  | nil => rfl
  | cons r rules ih =>
    have hbind : ∀ count, (List.range' id count).foldlM
        (fun x rule => x.pushRule (ranks.entries.place r.ranked) rule)
        (ranks.register r.ranked) = .ok (ranks.add r.ranked (List.range' id count)) :=
      fun count => ranks.foldlM_pushRule r.ranked (List.range' id count) []
    have hid : (ranks.register r.ranked).id? r.ranked = some (ranks.entries.place r.ranked) :=
      ranks.id?_add r.ranked []
    rw [numberFrom_cons_outcome, Failure.ofError_bind, numberFrom]
    simp only [hid, require, Failure.ofFault_ok, ok_bind, hbind, ih, Failure.ofError_map]

/-! ## Lists -/

/-- An element and the delimiter after it. -/
def itemSteps (l : ListPlan) : Except Fault (List Step) := do
  let item ← Step.ofRules l.items
  let delimiter ← l.delimiter.mapM Step.ofTokens
  .ok (item :: delimiter.toList)

/-- The last element and, for a terminator, the delimiter after it. -/
def lastSteps (l : ListPlan) : Except Fault (List Step) := do
  let item ← Step.ofRules l.items
  let delimiter ← (if l.endsDelimited then l.delimiter else none).mapM Step.ofTokens
  .ok (item :: delimiter.toList)

/-- The pair of rules of a list, made if no list had the same key before. -/
def pair (s : ListRules) (l : ListPlan) : Except Fault ((RuleId × RuleId) × ListRules) :=
  match s.pairs.get? l.key with
  | some p => .ok (p, s)
  | none => do
    let last := s.next
    let more := s.next + 1
    let s := { s with pairs := s.pairs.put l.key (last, more) }
    let steps ← lastSteps l
    let s := s.push l.ranked .listLast steps
    let steps ← itemSteps l
    let rest ← Step.ofRules [last, more]
    .ok ((last, more), s.push l.ranked .listMore (steps ++ [rest]))

/-- The step that a list parameter becomes. -/
def listStep (s : ListRules) (l : ListPlan) : Except Fault (Step × ListRules) := do
  let ((last, more), s) ← pair s l
  if l.min ≤ 1 then
    let st ← Step.ofRules [last, more]
    .ok (st, s)
  else if l.min = 2 then
    let st ← Step.ofRules [more]
    .ok (st, s)
  else
    let leading ← (List.replicate (l.min - 1) l).mapM itemSteps
    let rest ← Step.ofRules [last, more]
    let st ← Step.ofRules [s.next]
    .ok (st, s.push l.ranked .listLeading (leading.flatten ++ [rest]))

section Lists

variable {cx : Context} {l : ListPlan} (hl : l.Fits cx)
include hl

/-- A delimiter can be the token that it is declared with. -/
theorem mapM_delimiter : l.delimiter.mapM Step.ofTokens = .ok (l.delimiter.map .terminal) := by
  rw [hl.delimiter_eq]
  cases l.key.delimiter with
  | none => rfl
  | some δ =>
    have hself : δ.token ∈ withDescendants [δ.token] cx.substitutes :=
      mem_withDescendants_iff.mpr ⟨_, List.mem_singleton.mpr rfl, .refl⟩
    simp [Step.ofTokens_of_ne_nil (List.ne_nil_of_mem hself), Functor.map, Except.map]

theorem itemSteps_eq : itemSteps l = .ok l.itemSteps := by
  rw [itemSteps, Step.ofRules_of_ne_nil hl.items_ne, mapM_delimiter hl]
  rfl

theorem lastSteps_eq : lastSteps l = .ok l.lastSteps := by
  rw [lastSteps, Step.ofRules_of_ne_nil hl.items_ne, ListPlan.lastSteps]
  split
  · rw [mapM_delimiter hl]
    rfl
  · rfl

theorem pair_eq (s : ListRules) : pair s l = .ok ((s.pair l).1, (s.pair l).2.1) := by
  rcases s.pair_cases l with ⟨p, hp, heq⟩ | ⟨hp, heq⟩
  · rw [heq, pair, hp]
  · rw [heq, pair, hp]
    dsimp only
    rw [lastSteps_eq hl, itemSteps_eq hl, Step.ofRules_of_ne_nil (by simp)]
    rfl

/-- Lists have elements, and their delimiters have tokens. -/
theorem listStep_eq (s : ListRules) : listStep s l = .ok ((s.step l).1, (s.step l).2.1) := by
  have hleading : (List.replicate (l.min - 1) l).mapM itemSteps =
      .ok (List.replicate (l.min - 1) l.itemSteps) := by
    rw [mapM_eq_map (f := ListPlan.itemSteps), List.map_replicate]
    intro l' hl'
    rw [(List.mem_replicate.mp hl').2]
    exact itemSteps_eq hl
  rw [listStep, pair_eq hl, ok_bind, ListRules.step]
  generalize s.pair l = made
  obtain ⟨⟨last, more⟩, s', events⟩ := made
  dsimp only
  rw [Step.ofRules_of_ne_nil (by simp), Step.ofRules_of_ne_nil (by simp),
    Step.ofRules_of_ne_nil (by simp), hleading]
  split
  · rfl
  split
  · rfl
  · rfl

end Lists

/-! ## Variants -/

/-- The step of a parameter, and the list rules after it. -/
def step (cx : Context) (rule : String) (p : Param Kind) (lists : ListRules) :
    Except (Failure CompileError) (Step × ListRules) :=
  match p.shape with
  | .terminal tokens _ => do
    let ts ← Failure.ofError (cx.terminal rule p.name tokens)
    let st ← Failure.ofFault (Step.ofTokens ts)
    .ok (st, lists)
  | .nonTerminal kind maxRank _ => do
    let rs ← Failure.ofError (cx.alternatives rule p.name kind maxRank)
    let st ← Failure.ofFault (Step.ofRules rs)
    .ok (st, lists)
  | .list element maxRank min delimiter => do
    let l ← Failure.ofError (cx.listPlan rule p.name element maxRank min delimiter)
    Failure.ofFault (listStep lists l)

/-- The steps of the parameters that a variant keeps, which parameters these are, and
the list rules after them. -/
def steps (cx : Context) (rule : String) (kept : Nat) (lists : ListRules) :
    List (Param Kind) → Except (Failure CompileError) (List Step × List Bool × ListRules)
  | [] => .ok ([], [], lists)
  | p :: rest =>
    let isOptional := p.shape.isOptional
    let isPresent := !isOptional || kept % 2 = 1
    let kept := if isOptional then kept / 2 else kept
    if isPresent then do
      let (st, lists) ← step cx rule p lists
      let (sts, args, lists) ← steps cx rule kept lists rest
      .ok (st :: sts, true :: args, lists)
    else do
      let (sts, args, lists) ← steps cx rule kept lists rest
      .ok (sts, false :: args, lists)

/-- The rule of one variant. -/
def rule (cx : Context) (id : RuleId) (v : Variant) (d : RuleDecl) (lists : ListRules) :
    Except (Failure CompileError) (Rule × ListRules) := do
  let (sts, args, lists) ← steps cx d.action v.kept lists d.params
  .ok (⟨id, d.ranked, .declared d.action v.decl, sts, args, [], []⟩, lists)

/-- The rules of the variants, numbered from `id` on, and the list rules. -/
def rules (cx : Context) (decls : List RuleDecl) (id : RuleId) (lists : ListRules) :
    List Variant → Except (Failure CompileError) (List Rule × ListRules)
  | [] => .ok ([], lists)
  | v :: rest => do
    let d ← Failure.ofFault (require .outOfRange decls[v.decl]?)
    let (r, lists) ← rule cx id v d lists
    let (rs, lists) ← rules cx decls (id + 1) lists rest
    .ok (r :: rs, lists)

variable {cx : Context}

/-- A parameter that is accepted has alternatives. -/
theorem step_eq (rule : String) (p : Param Kind) (lists : ListRules) :
    step cx rule p lists = Failure.ofError (cx.step rule p lists).outcome := by
  obtain ⟨name, shape⟩ := p
  unfold step Context.step
  cases shape with
  | terminal tokens optional =>
    dsimp only
    cases ht : cx.terminal rule name tokens with
    | error e => rfl
    | ok ts =>
      obtain ⟨hne, rfl⟩ := Context.terminal_ok ht
      obtain ⟨t, hmem⟩ := List.exists_mem_of_ne_nil _ hne
      have hself : t ∈ withDescendants tokens cx.substitutes :=
        mem_withDescendants_iff.mpr ⟨t, hmem, .refl⟩
      rw [Failure.ofError_ok, ok_bind, Step.ofTokens_of_ne_nil (List.ne_nil_of_mem hself)]
      rfl
  | nonTerminal kind maxRank optional =>
    dsimp only
    cases ha : cx.alternatives rule name kind maxRank with
    | error e => rfl
    | ok rs =>
      rw [Failure.ofError_ok, ok_bind, Step.ofRules_of_ne_nil (Context.alternatives_ok ha).2]
      rfl
  | list element maxRank min delimiter =>
    dsimp only
    cases hp : cx.listPlan rule name element maxRank min delimiter with
    | error e => rfl
    | ok l =>
      rw [Failure.ofError_ok, ok_bind, listStep_eq (Context.listPlan_ok hp).1]
      rfl

theorem steps_eq (rule : String) (kept : Nat) (lists : ListRules) (ps : List (Param Kind)) :
    steps cx rule kept lists ps = Failure.ofError (cx.steps rule kept lists ps).outcome := by
  induction ps generalizing kept lists with
  | nil => rfl
  | cons p ps ih =>
    rw [steps, Context.steps]
    dsimp only
    split
    · rw [Journaled.outcome_bind, Failure.ofError_bind, step_eq]
      simp only [Journaled.outcome_map, Failure.ofError_map, ih]
    · simp only [Journaled.outcome_map, Failure.ofError_map, ih]

theorem rule_eq (id : RuleId) (v : Variant) (d : RuleDecl) (lists : ListRules) :
    rule cx id v d lists = Failure.ofError (cx.rule id v d lists).outcome := by
  rw [rule, Context.rule, Journaled.outcome_bind, Failure.ofError_bind, steps_eq]
  rfl

/-- The declarations of variants are there. -/
theorem rules_eq {decls : List RuleDecl} (id : RuleId) (lists : ListRules)
    {variants : List Variant} (hv : ∀ v ∈ variants, ∃ d, decls[v.decl]? = some d) :
    rules cx decls id lists variants =
      Failure.ofError (cx.rules decls id lists variants).outcome := by
  induction variants generalizing id lists with
  | nil => rfl
  | cons v variants ih =>
    obtain ⟨d, hd⟩ := hv v List.mem_cons_self
    have ih := fun id lists => ih id lists fun v' h' => hv v' (List.mem_cons_of_mem v h')
    rw [rules, Context.rules, hd]
    dsimp only [require]
    rw [Failure.ofFault_ok, ok_bind, Journaled.outcome_bind, Failure.ofError_bind, rule_eq]
    simp only [Journaled.outcome_map, Failure.ofError_map, ih]

/-! ## The whole grammar -/

/-- The place of a rule, which must be one of `count` rules from `first` on. -/
def place (first : RuleId) (count : Nat) (id : RuleId) : Except Fault Nat :=
  if first ≤ id ∧ id - first < count then .ok (id - first) else .error .outOfRange

/-- The places of the rules that a step can be. -/
def stepPlaces (first : RuleId) (count : Nat) : Step → Except Fault (List Nat)
  | .terminal _ => .ok []
  | .nonTerminal rs => rs.mapM (place first count)

/-- The places of the rules in all steps. Besides the place of the rule at hand, these are
the places that token sets are kept, looked up and carried to. -/
def places (first : RuleId) (rules : List Rule) : Except Fault (List (List (List Nat))) :=
  rules.mapM fun r => r.steps.mapM (stepPlaces first rules.length)

/-- The grammar of a declaration, whose parses produce the kind `start`. -/
def compile (options : Options) (tokens : TokenTable) (d : Declaration) (start : String) :
    Except (Failure CompileError) Grammar := do
  let endOfStream ← Failure.ofError
    (Journaled.require .missingEndOfStream (tokens.role? .endOfStream)).outcome
  let startKind ← Failure.ofError
    (Journaled.require (.unknownStartKind start) (d.kinds.get? start)).outcome
  let first := tokens.size
  let numbering ← numberFrom options.maxOptionals 0 first .empty d.rules
  let substitutes := tokens.substitutes
  let cx : Context := ⟨tokens, substitutes, d.kinds, numbering.ranks⟩
  let (declared, lists) ← rules cx d.rules first
    (.startingAt (first + numbering.variants.length)) numbering.variants
  let initial ← Failure.ofError (Journaled.require (.unknownStartKind start)
    (numbering.ranks.rulesOfKind? startKind none)).outcome
  let _ ← Failure.ofFault (places first (declared ++ lists.rules))
  let rules ← Failure.ofError (withTokenSets first endOfStream (declared ++ lists.rules)).outcome
  Failure.ofFault (Grammar.ofParts
    ⟨tokens, d.kinds, startKind, endOfStream, numbering.ranks, rules, substitutes, initial⟩)

/-- Rules without loose ends have places for all rules in their steps. -/
theorem succeeds_places {first : RuleId} {rules : List Rule} (hl : Linked first rules) :
    Succeeds (places first rules) := by
  refine succeeds_mapM_iff.mpr fun r hr => succeeds_mapM_iff.mpr fun s hs => ?_
  cases s with
  | terminal ts => exact succeeds_ok _
  | nonTerminal rs =>
    refine succeeds_mapM_iff.mpr fun q hq => ?_
    have hbounds := hl.source_bounds r hr rs hs q hq
    have hplace : q - first < rules.length := by grind
    rw [place, if_pos ⟨hbounds.1, hplace⟩]
    exact succeeds_ok _

end Checked

theorem misplaced?_eq_none {first index : Nat} {rules : List Rule}
    (h : ∀ i r, rules[i]? = some r → r.id = first + (index + i)) :
    Grammar.misplaced? first index rules = none := by
  induction rules generalizing index with
  | nil => rfl
  | cons r rules ih =>
    have hhead : r.id = first + index := h 0 r rfl
    rw [Grammar.misplaced?, if_pos hhead]
    refine ih fun i q hq => ?_
    rw [Nat.add_right_comm index 1 i]
    exact h (i + 1) q hq

/-- Dense ids pass the check of the parts. -/
theorem ofParts_of_dense {g : Grammar}
    (h : ∀ i r, g.rules[i]? = some r → r.id = g.tokens.size + i) : g.ofParts = .ok g := by
  have hplaced : Grammar.misplaced? g.tokens.size 0 g.rules = none := by
    refine misplaced?_eq_none fun i r hr => ?_
    rw [Nat.zero_add]
    exact h i r hr
  rw [Grammar.ofParts, hplaced]

theorem Parts.Good.ofParts_eq {p : Parts} {tokens : TokenTable} {d : Declaration}
    (hp : p.Good tokens d) (start : Kind) (eos : TokenId) (initial : List RuleId) :
    Grammar.ofParts ⟨tokens, d.kinds, start, eos, p.numbering.ranks,
        settledRules tokens.size eos p.rules, tokens.substitutes, initial⟩ =
      .ok ⟨tokens, d.kinds, start, eos, p.numbering.ranks,
        settledRules tokens.size eos p.rules, tokens.substitutes, initial⟩ := by
  refine ofParts_of_dense fun i r hr => ?_
  obtain ⟨r', hr', rfl⟩ := exists_of_getElem?_settledRules hr
  rw [settledRule_id]
  exact hp.id_eq hr'

/-- **Compilation does not fault.** -/
theorem Checked.compile_eq (options : Options) (tokens : TokenTable) (d : Declaration)
    (start : String) : Checked.compile options tokens d start =
      Failure.ofError (Compile.compile options tokens d start).outcome := by
  rw [Checked.compile, Compile.compile]
  simp only [Journaled.outcome_bind, Failure.ofError_bind]
  congr 1
  funext eos
  congr 1
  funext startKind
  rw [numberFrom_eq]
  cases hnumbering : (numberAll d tokens.size options.maxOptionals).outcome with
  | error e =>
    rw [numberAll] at hnumbering
    rw [hnumbering]
    rfl
  | ok numbering =>
    have hlists := numberFrom_lists RankIndex.valid_empty hnumbering
    rw [numberAll] at hnumbering
    rw [hnumbering]
    simp only [Failure.ofError_ok, ok_bind]
    rw [rules_eq _ _ hlists.exists_decl]
    cases hrules : (Context.rules ⟨tokens, tokens.substitutes, d.kinds, numbering.ranks⟩ d.rules
        tokens.size (.startingAt (tokens.size + numbering.variants.length))
        numbering.variants).outcome with
    | error e => rfl
    | ok made =>
      have hp : Parts.Made ⟨numbering, made.1, made.2⟩ options tokens d := ⟨hnumbering, hrules⟩
      simp only [Failure.ofError_ok, ok_bind, Journaled.outcome_tell]
      cases numbering.ranks.rulesOfKind? startKind none with
      | none => rfl
      | some initial =>
        obtain ⟨places, hplaces⟩ := succeeds_places hp.good.linked
        have hparts := hp.good.ofParts_eq startKind eos initial
        simp only [Parts.rules] at hplaces hparts
        simp only [Journaled.outcome_require, Failure.ofError_ok, ok_bind, withTokenSets_outcome,
          hplaces, hparts, Failure.ofFault_ok]
        rfl

end Compile
end GrammarKit
