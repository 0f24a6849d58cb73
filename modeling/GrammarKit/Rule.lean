import GrammarKit.Fault
import GrammarKit.Rank
import GrammarKit.TokenSet

/-!
# Compiled rules

A rule is a sequence of steps, each a choice between tokens or between other
rules. Rules are numbered right after the tokens, so tokens and rules share one
range of entity numbers.
-/
namespace GrammarKit

/-- One step of a rule. -/
inductive Step where
  /-- Any of these tokens. -/
  | terminal (tokens : List TokenId)
  /-- Anything one of these rules produces. -/
  | nonTerminal (rules : List RuleId)
  deriving DecidableEq, Repr

namespace Step

/-- The alternatives, tokens or rules. -/
def sources : Step → List Nat
  | terminal tokens => tokens
  | nonTerminal rules => rules

def isTerminal : Step → Bool
  | terminal _ => true
  | nonTerminal _ => false

/-- A step over tokens, of which there must be some. -/
def ofTokens (tokens : List TokenId) : Except Fault Step :=
  if tokens.isEmpty then .error .emptyTerminal else .ok (.terminal tokens)

/-- A step over rules, of which there must be some. -/
def ofRules (rules : List RuleId) : Except Fault Step :=
  if rules.isEmpty then .error .emptyNonTerminal else .ok (.nonTerminal rules)

end Step

/-- Where a rule comes from. -/
inductive Origin where
  /-- A declared rule: its action and its place among the declarations. -/
  | declared (action : String) (decl : Nat)
  /-- The last element of a list. -/
  | listLast
  /-- An element of a list and the elements after it. -/
  | listMore
  /-- The leading elements that a list must have. -/
  | listLeading
  deriving DecidableEq, Repr

namespace Origin

/-- The action that reduces the rule, if it was declared. -/
def action? : Origin → Option String
  | declared action _ => some action
  | _ => none

/-- Whether the rule was made up for a list. -/
def isSynthetic : Origin → Bool
  | declared _ _ => false
  | _ => true

end Origin

/-- A compiled rule. -/
structure Rule where
  id : RuleId
  /-- What the rule produces; for the rules of a list, what its elements are. -/
  ranked : RankedType
  origin : Origin
  steps : List Step
  /-- Which declared parameters are present; empty for the rules of a list. -/
  args : List Bool
  /-- Tokens a match can begin with. -/
  starting : TokenSet
  /-- Tokens that can follow a match, the end of the stream among them. -/
  ending : TokenSet
  deriving DecidableEq, Repr

/-- Whether the first step can be the rule `other`. -/
def Rule.startsWithRule (r : Rule) (other : RuleId) : Bool :=
  match r.steps with
  | .nonTerminal rules :: _ => rules.contains other
  | _ => false

end GrammarKit
