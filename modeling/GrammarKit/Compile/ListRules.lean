import GrammarKit.Compile.Journal
import GrammarKit.Declaration

/-!
# Rules for lists

A list of elements `E` with delimiter `D` needs two rules:

    END  := E [D if it is a terminator]
    MORE := E [D] (END | MORE)

A list parameter becomes the step `END | MORE` if its minimum is zero or one,
`MORE` if it is two, and otherwise a rule of its own that spells out the leading
elements before `END | MORE`. Lists with the same element, rank cap and
delimiter share their pair of rules.
-/
namespace GrammarKit.Compile

/-- What identifies the pair of rules of a list. -/
structure ListKey where
  element : Kind
  maxRank : Option Nat
  delimiter : Option Delimiter
  deriving DecidableEq, Repr

/-- A list parameter with its alternatives known. -/
structure ListPlan where
  key : ListKey
  /-- The element at the highest rank it can have. -/
  ranked : RankedType
  /-- Rules an element can be. -/
  items : List RuleId
  /-- Tokens that can be the delimiter. -/
  delimiter : Option (List TokenId)
  min : Nat
  deriving DecidableEq, Repr

namespace ListPlan

/-- Whether the last element, too, has a delimiter after it. -/
def endsDelimited (l : ListPlan) : Bool :=
  match l.key.delimiter with
  | some (.terminator _) => true
  | _ => false

/-- The delimiter, if there is one. -/
def delimiterSteps (l : ListPlan) : List Step := (l.delimiter.map Step.terminal).toList

/-- An element and the delimiter after it. -/
def itemSteps (l : ListPlan) : List Step := .nonTerminal l.items :: l.delimiterSteps

/-- The last element and, for a terminator, the delimiter after it. -/
def lastSteps (l : ListPlan) : List Step :=
  .nonTerminal l.items :: if l.endsDelimited then l.delimiterSteps else []

end ListPlan

/-- The rules made for lists so far, newest first, and the pairs among them. -/
structure ListRules where
  next : RuleId
  newest : List Rule
  pairs : Assoc ListKey (RuleId × RuleId)
  deriving DecidableEq, Repr

namespace ListRules

/-- No rules yet; the first one will have this id. -/
def startingAt (id : RuleId) : ListRules := ⟨id, [], []⟩

/-- The rules in the order of their ids. -/
def rules (s : ListRules) : List Rule := s.newest.reverse

/-- Adds a rule. -/
def push (s : ListRules) (ranked : RankedType) (origin : Origin) (steps : List Step) : ListRules :=
  { s with next := s.next + 1, newest := ⟨s.next, ranked, origin, steps, [], [], []⟩ :: s.newest }

/-- The pair of rules of a list, made if no list had the same key before. -/
def pair (s : ListRules) (l : ListPlan) : (RuleId × RuleId) × ListRules × List Event :=
  match s.pairs.get? l.key with
  | some p => (p, s, [])
  | none =>
    let last := s.next
    let more := s.next + 1
    let s := { s with pairs := s.pairs.put l.key (last, more) }
    let s := s.push l.ranked .listLast l.lastSteps
    let s := s.push l.ranked .listMore (l.itemSteps ++ [.nonTerminal [last, more]])
    ((last, more), s, [.loop l.ranked last more])

/-- The step that a list parameter becomes. -/
def step (s : ListRules) (l : ListPlan) : Step × ListRules × List Event :=
  let ((last, more), s, events) := s.pair l
  if l.min ≤ 1 then (.nonTerminal [last, more], s, events)
  else if l.min = 2 then (.nonTerminal [more], s, events)
  else
    let leading := (List.replicate (l.min - 1) l.itemSteps).flatten
    let steps := leading ++ [.nonTerminal [last, more]]
    (.nonTerminal [s.next], s.push l.ranked .listLeading steps, events)

end ListRules
end GrammarKit.Compile
