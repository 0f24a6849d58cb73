/-!
# Faults

A fault is a call that an operation does not promise to handle: an id that
names nothing, a slice that cuts a character, an empty list of alternatives.
It is not a result for the user of a language, who gets the error types of the
modules that declare them. Operations with both outcomes fail with a `Failure`.

Some faults explain themselves (`Fault.message?`), the others do not.
-/
namespace GrammarKit

/-- Why a call had no answer. -/
inductive Fault where
  /-- An id or index names nothing. -/
  | outOfRange
  /-- A slice ends past the text or inside a character. -/
  | badSlice
  /-- A search starts far behind the end of the text. -/
  | searchPastEnd
  /-- A set of literals holds the empty one. -/
  | emptyLiteral
  /-- A terminal step has no token. -/
  | emptyTerminal
  /-- A non-terminal step has no rule. -/
  | emptyNonTerminal
  /-- A rule is bound to a ranked type that was never registered. -/
  | unregisteredType (id : Nat)
  /-- The rule at `index` does not have the id its place gives it. -/
  | misplacedRule (index expected : Nat)
  /-- A rule id lies outside the grammar. -/
  | unknownRule (id tokens rules : Nat)
  /-- The newline offsets of a lexed text do not ascend. -/
  | newlinesOutOfOrder
  deriving DecidableEq, Repr

/-- The explanation of a fault, where it has one. -/
def Fault.message? : Fault → Option String
  | .outOfRange | .badSlice | .searchPastEnd => none
  | .emptyLiteral => some "LiteralSet: empty literal"
  | .emptyTerminal => some "RuleStep: empty terminal alternatives"
  | .emptyNonTerminal => some "RuleStep: empty non-terminal alternatives"
  | .unregisteredType id => some s!"RankIndex: ranked type #{id} not registered"
  | .misplacedRule index expected =>
    some s!"Grammar: rule at index {index} must have id {expected}"
  | .unknownRule id tokens rules =>
    some s!"Grammar: rule id {id} out of range ({tokens} tokens, {rules} rules)"
  | .newlinesOutOfOrder => some "LexerResult: newline offsets must be strictly ascending"

/-- The two ways an operation can fail: an error of its domain or a fault. -/
inductive Failure (ε : Type) where
  | error (error : ε)
  | fault (fault : Fault)
  deriving DecidableEq, Repr

/-- The value, or a fault of a call on something that is not there. -/
def require {α : Type} (fault : Fault) : Option α → Except Fault α
  | some a => .ok a
  | none => .error fault

/-- Running two operations one after the other is successful exactly if both are. -/
theorem bind_eq_ok_iff {ε α β : Type} {x : Except ε α} {f : α → Except ε β} {b : β} :
    (x >>= f) = .ok b ↔ ∃ a, x = .ok a ∧ f a = .ok b := by
  cases x with
  | error e => simp [bind, Except.bind]
  | ok a => simp [bind, Except.bind]

/-- Lifts a result that can only be a fault. -/
def Failure.ofFault {ε α : Type} : Except Fault α → Except (Failure ε) α
  | .ok a => .ok a
  | .error f => .error (.fault f)

/-- Lifts a result that can only be an error. -/
def Failure.ofError {ε α : Type} : Except ε α → Except (Failure ε) α
  | .ok a => .ok a
  | .error e => .error (.error e)

end GrammarKit
