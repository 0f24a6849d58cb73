import GrammarKit.Grammar
import GrammarKit.Text.Casing

/-!
# Rule listings

One line per rule:

    [7] Sum : Expr -> Expr[8] <PLUS> {Num[9] Paren[10]}
    [11] Stmt* -> Stmt[5] <SEMI>

Tokens stand in angle brackets and upper case, rules with their ids, a choice
between several rules in braces. A rule of a list goes by its kind and a star.
-/
namespace GrammarKit.Grammar

/-- What a listing calls a token or a rule. -/
def label (g : Grammar) (id : Nat) : Except Fault String :=
  if g.isToken id then (g.tokens.name id).map Text.Casing.upperText
  else do
    let r ← g.rule id
    match r.origin.action? with
    | some action => .ok action
    | none => (require .outOfRange (g.kinds.name? r.ranked.kind)).map (· ++ "*")

/-- A step in a listing. -/
def stepListing (g : Grammar) : Step → Except Fault String
  | .terminal tokens => do
    let names ← tokens.mapM g.label
    .ok ("<" ++ String.intercalate " " names ++ ">")
  | .nonTerminal rules => do
    let names ← rules.mapM fun r => (g.label r).map fun name => s!"{name}[{r}]"
    match names with
    | [name] => .ok name
    | _ => .ok ("\x7b" ++ String.intercalate " " names ++ "\x7d")

/-- The line of a rule. -/
def ruleListing (g : Grammar) (id : RuleId) : Except Fault String := do
  let r ← g.rule id
  let kind ← require .outOfRange (g.kinds.name? r.ranked.kind)
  let head := match r.origin.action? with
    | some action => s!"[{id}] {action} : {kind} ->"
    | none => s!"[{id}] {kind}* ->"
  let steps ← r.steps.mapM g.stepListing
  .ok (steps.foldl (fun line step => line ++ " " ++ step) head)

/-- The lines of all rules. -/
def listing (g : Grammar) : Except Fault String := do
  let lines ← (List.range g.rules.length).mapM fun i => g.ruleListing (g.tokenCount + i)
  .ok (lines.foldl (fun text line => text ++ line ++ "\n") "")

end GrammarKit.Grammar
