import GrammarKit.Assoc
import GrammarKit.Token.Decl

/-!
# Tokens and what can stand for them

A terminal that lists a token also accepts the substitutable children of the
token, their children, and so on. `withDescendants` lists them all, each token
before its descendants and nothing twice. It visits the tokens to find them,
unless it sees at once that they are all there is (`areLeaves`).
-/
namespace GrammarKit

namespace Descendants

/-- The children of a token in a map of children. -/
def childrenIn (children : Assoc TokenId (List TokenId)) (t : TokenId) : List TokenId :=
  (children.get? t).getD []

/-- Every token that occurs in a list of tokens or in a map of children. -/
def mentioned (tokens : List TokenId) (children : Assoc TokenId (List TokenId)) : List TokenId :=
  tokens ++ children.flatMap (·.2)

/-- Visits the tokens of a stack and their descendants, first come first, and
lists what it has not seen. `fuel` bounds the depth: each visit goes down to
children only from a token not seen before. -/
def visit (children : Assoc TokenId (List TokenId)) :
    (fuel : Nat) → (stack seen : List TokenId) → List TokenId
  | _, [], seen => seen
  | 0, _ :: _, seen => seen
  | fuel + 1, t :: stack, seen =>
    if seen.contains t then visit children (fuel + 1) stack seen
    else visit children fuel (childrenIn children t ++ stack) (seen ++ [t])
termination_by fuel stack => (fuel, stack.length)

/-- What a visit of these tokens lists. -/
def visitAll (tokens : List TokenId) (children : Assoc TokenId (List TokenId)) : List TokenId :=
  visit children (mentioned tokens children).length tokens []

/-- Whether no token is a key of the map, and none is repeated. -/
def areLeaves (tokens : List TokenId) (children : Assoc TokenId (List TokenId)) : Bool :=
  !tokens.any children.contains && decide tokens.Nodup

end Descendants

/-- The tokens and all tokens that can stand for them, without repetition. -/
def withDescendants (tokens : List TokenId) (children : Assoc TokenId (List TokenId)) :
    List TokenId :=
  if Descendants.areLeaves tokens children then tokens else Descendants.visitAll tokens children

end GrammarKit
