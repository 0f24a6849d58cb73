import GrammarKit.Kind
import GrammarKit.Rank
import GrammarKit.Token.Decl

/-!
# Declaring grammars

A grammar is declared as a list of rules. A rule names the action that reduces
it, the kind it produces at some rank, and its parameters: tokens, nodes of a
kind, or lists of nodes.

A `Declaration` grows by `withKind` and `withRule`; both give every kind they
name its number, in the order in which the names appear.
-/
namespace GrammarKit

/-- What stands around the elements of a list. -/
inductive Delimiter where
  /-- Between elements: `a, b, c`. -/
  | separator (token : TokenId)
  /-- After every element: `a; b; c;`. -/
  | terminator (token : TokenId)
  deriving DecidableEq, Repr

def Delimiter.token : Delimiter → TokenId
  | .separator t | .terminator t => t

/-- What a parameter accepts, with kinds named by `κ`: their names in a rule
that is being declared, their numbers afterwards. -/
inductive Shape (κ : Type) where
  /-- One of these tokens or of the tokens that can stand for them. -/
  | terminal (tokens : List TokenId) (optional : Bool)
  /-- A node of a kind, of at most the given rank. -/
  | nonTerminal (kind : κ) (maxRank : Option Nat) (optional : Bool)
  /-- At least `min` nodes of a kind; if `min` is zero, the list is optional. -/
  | list (element : κ) (maxRank : Option Nat) (min : Nat) (delimiter : Option Delimiter)
  deriving DecidableEq, Repr

/-- Whether a parameter may be left out. -/
def Shape.isOptional {κ : Type} : Shape κ → Bool
  | .terminal _ optional => optional
  | .nonTerminal _ _ optional => optional
  | .list _ _ min _ => min = 0

/-- A named parameter. -/
structure Param (κ : Type) where
  name : String
  shape : Shape κ
  deriving DecidableEq, Repr

/-- A declared rule. -/
structure RuleDecl where
  action : String
  produces : Kind
  rank : Nat
  params : List (Param Kind)
  deriving DecidableEq, Repr

namespace RuleDecl

/-- Number of parameters that may be left out. -/
def optionalCount (r : RuleDecl) : Nat := (r.params.filter (·.shape.isOptional)).length

def ranked (r : RuleDecl) : RankedType := ⟨r.produces, r.rank⟩

end RuleDecl

/-- A kind as a rule under declaration refers to it. -/
inductive KindRef where
  | named (name : String)
  | numbered (kind : Kind)
  deriving DecidableEq, Repr

/-- A rule under declaration, its kinds by name. -/
structure RuleDraft where
  action : String
  produces : String
  rank : Nat
  params : List (Param KindRef)
  deriving DecidableEq, Repr

/-- A declared grammar: kinds and rules in order. -/
structure Declaration where
  kinds : KindTable
  rules : List RuleDecl
  deriving DecidableEq, Repr

/-- The number of a kind, which is declared if it is new. -/
def KindTable.refer (t : KindTable) : KindRef → Kind × KindTable
  | .named name => t.intern name
  | .numbered kind => (kind, t)

/-- The shape with its kind numbered. -/
def KindTable.numberShape (t : KindTable) : Shape KindRef → Shape Kind × KindTable
  | .terminal tokens optional => (.terminal tokens optional, t)
  | .nonTerminal kind maxRank optional =>
    let (k, t) := t.refer kind
    (.nonTerminal k maxRank optional, t)
  | .list element maxRank min delimiter =>
    let (k, t) := t.refer element
    (.list k maxRank min delimiter, t)

/-- Parameters with their kinds numbered, from left to right. -/
def KindTable.numberParams (t : KindTable) : List (Param KindRef) → List (Param Kind) × KindTable
  | [] => ([], t)
  | p :: rest =>
    let (shape, t) := t.numberShape p.shape
    let (params, t) := t.numberParams rest
    (⟨p.name, shape⟩ :: params, t)

namespace Declaration

def empty : Declaration := ⟨.empty, []⟩

/-- The declaration with a kind, and the number of the kind. -/
def withKind (d : Declaration) (name : String) : Kind × Declaration :=
  let (k, kinds) := d.kinds.intern name
  (k, { d with kinds })

/-- The rule of a draft, and the kinds with the ones it names. -/
def number (d : Declaration) (draft : RuleDraft) : RuleDecl × KindTable :=
  let (produces, kinds) := d.kinds.intern draft.produces
  let (params, kinds) := kinds.numberParams draft.params
  (⟨draft.action, produces, draft.rank, params⟩, kinds)

/-- The declaration with one more rule, and the place of the rule. -/
def withRule (d : Declaration) (draft : RuleDraft) : Nat × Declaration :=
  let (rule, kinds) := d.number draft
  (d.rules.length, ⟨kinds, d.rules ++ [rule]⟩)

/-- The declaration with the kinds that an abandoned draft named. -/
def withAbandoned (d : Declaration) (draft : RuleDraft) : Declaration :=
  { d with kinds := (d.number draft).2 }

end Declaration
end GrammarKit
