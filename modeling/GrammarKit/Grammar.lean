import GrammarKit.Rule
import GrammarKit.Token.Table

/-!
# Compiled grammars

A grammar is what a parsing engine runs on: the tokens, every rule with its
starting and ending tokens, the index of rules by kind and rank, and the rules
that a parse begins with.

`Grammar.ofParts` checks that rule ids are dense and start right after the last
token.
-/
namespace GrammarKit

/-- A compiled grammar. -/
structure Grammar where
  tokens : TokenTable
  kinds : KindTable
  /-- The kind a parse produces. -/
  start : Kind
  endOfStream : TokenId
  ranks : RankIndex
  rules : List Rule
  /-- Substitutable children of each token that has some. -/
  substitutes : Assoc TokenId (List TokenId)
  /-- Rules a parse begins with. -/
  initial : List RuleId
  deriving DecidableEq, Repr

namespace Grammar

/-- The first rule, counted from `index`, without the id that its place gives it. -/
def misplaced? (first index : Nat) : List Rule → Option (Nat × Nat)
  | [] => none
  | r :: rest =>
    if r.id = first + index then misplaced? first (index + 1) rest
    else some (index, first + index)

/-- The grammar of these parts, if every rule has the id of its place. -/
def ofParts (g : Grammar) : Except Fault Grammar :=
  match misplaced? g.tokens.size 0 g.rules with
  | none => .ok g
  | some (index, expected) => .error (.misplacedRule index expected)

variable (g : Grammar)

def tokenCount : Nat := g.tokens.size

/-- Number of tokens and rules. -/
def entityCount : Nat := g.tokens.size + g.rules.length

def isToken (id : Nat) : Bool := id < g.tokenCount

def isRule (id : Nat) : Bool := !g.isToken id && id < g.entityCount

/-- The rule with an id. -/
def rule? (id : RuleId) : Option Rule :=
  if id < g.tokenCount then none else g.rules[id - g.tokenCount]?

/-- The rule with an id, which must be one of the grammar. -/
def rule (id : RuleId) : Except Fault Rule :=
  require (.unknownRule id g.tokenCount g.rules.length) (g.rule? id)

/-- Declared rules that produce a kind at ranks up to a cap. -/
def rulesOfKind (k : Kind) (cap : Option Nat) : List RuleId :=
  (g.ranks.rulesOfKind? k cap).getD []

end Grammar
end GrammarKit
