import GrammarKit.Compile.ListRules
import GrammarKit.Compile.Variant
import GrammarKit.Token.Descendants
import GrammarKit.Token.Table

/-!
# From variants to rules

A variant of a declared rule becomes a rule with one step for each parameter
that it keeps: a terminal lists its tokens and what can stand for them, a
non-terminal the rules of its kind up to its rank cap, a list the rules made
for it. Parameters are checked when they become steps.
-/
namespace GrammarKit.Compile

/-- What all variants are compiled against. -/
structure Context where
  tokens : TokenTable
  substitutes : Assoc TokenId (List TokenId)
  kinds : KindTable
  ranks : RankIndex

namespace Context

variable (cx : Context)

/-- The tokens that a terminal accepts. -/
def terminal (rule param : String) (tokens : List TokenId) : Except CompileError (List TokenId) :=
  if tokens.isEmpty then .error (.emptyTerminal rule param)
  else match tokens.find? fun t => !cx.tokens.contains t with
    | some t => .error (.unknownToken rule param t)
    | none => .ok (withDescendants tokens cx.substitutes)

/-- The rules that a non-terminal accepts. -/
def alternatives (rule param : String) (kind : Kind) (maxRank : Option Nat) :
    Except CompileError (List RuleId) :=
  let name := (cx.kinds.name? kind).getD "?"
  match cx.ranks.rulesOfKind? kind maxRank with
  | none => .error (.unknownKind rule param name)
  | some [] => .error (.emptyAlternatives rule param name (maxRank.getD 0))
  | some rules => .ok rules

/-- The rank of the elements of a list: its cap, or the highest there is. -/
def elementRank (element : Kind) (maxRank : Option Nat) : Nat :=
  let top := (cx.ranks.maxRank? element).getD 0
  maxRank.elim top (·.min top)

/-- A list parameter with its alternatives looked up. -/
def listPlan (rule param : String) (element : Kind) (maxRank : Option Nat) (min : Nat)
    (delimiter : Option Delimiter) : Except CompileError ListPlan := do
  let items ← cx.alternatives rule param element maxRank
  let tokens ← delimiter.mapM fun d => cx.terminal rule param [d.token]
  let ranked : RankedType := ⟨element, cx.elementRank element maxRank⟩
  pure ⟨⟨element, maxRank, delimiter⟩, ranked, items, tokens, min⟩

/-- The step of a parameter, and the list rules after it. -/
def step (rule : String) (p : Param Kind) (lists : ListRules) : Journaled (Step × ListRules) :=
  match p.shape with
  | .terminal tokens _ =>
    ⟨[], (cx.terminal rule p.name tokens).map fun ts => (.terminal ts, lists)⟩
  | .nonTerminal kind maxRank _ =>
    ⟨[], (cx.alternatives rule p.name kind maxRank).map fun rs => (.nonTerminal rs, lists)⟩
  | .list element maxRank min delimiter =>
    match cx.listPlan rule p.name element maxRank min delimiter with
    | .error e => .fail e
    | .ok shape =>
      let (step, lists, events) := lists.step shape
      ⟨events, .ok (step, lists)⟩

/-- The steps of the parameters that a variant keeps, which parameters these
are, and the list rules after them. The lowest bit of `kept` decides about the
next optional parameter. -/
def steps (rule : String) (kept : Nat) (lists : ListRules) :
    List (Param Kind) → Journaled (List Step × List Bool × ListRules)
  | [] => pure ([], [], lists)
  | p :: rest =>
    let isOptional := p.shape.isOptional
    let isPresent := !isOptional || kept % 2 = 1
    let kept := if isOptional then kept / 2 else kept
    if isPresent then do
      let (step, lists) ← cx.step rule p lists
      (fun (steps, args, lists) => (step :: steps, true :: args, lists)) <$>
        steps rule kept lists rest
    else
      (fun (steps, args, lists) => (steps, false :: args, lists)) <$> steps rule kept lists rest

/-- The rule of one variant. -/
def rule (id : RuleId) (v : Variant) (d : RuleDecl) (lists : ListRules) :
    Journaled (Rule × ListRules) := do
  let (steps, args, lists) ← cx.steps d.action v.kept lists d.params
  let r : Rule := ⟨id, d.ranked, .declared d.action v.decl, steps, args, [], []⟩
  Journaled.tell [.rule r]
  pure (r, lists)

/-- The rules of the variants, numbered from `id` on, and the list rules. -/
def rules (decls : List RuleDecl) (id : RuleId) (lists : ListRules) :
    List Variant → Journaled (List Rule × ListRules)
  | [] => pure ([], lists)
  | v :: rest =>
    match decls[v.decl]? with
    | none => rules decls (id + 1) lists rest
    | some d => do
      let (r, lists) ← cx.rule id v d lists
      (fun (rs, lists) => (r :: rs, lists)) <$> rules decls (id + 1) lists rest

end Context
end GrammarKit.Compile
