import GrammarKit.Rule
import GrammarKit.Token.Table
import GrammarKit.Text.Blank

/-!
# What compilation reports on the way

Compiling a grammar keeps a journal of events: ranked types that get numbers,
rules, the rule pairs made for lists, and how long the token sets took to
settle. `Journaled` is a computation with a journal that may fail; the journal
then ends with the failure. `Event.line?` writes an event.
-/
namespace GrammarKit

/-- Why a declaration cannot be compiled. -/
inductive CompileError where
  | unknownKind (rule param kind : String)
  | unknownToken (rule param : String) (token : TokenId)
  | emptyTerminal (rule param : String)
  | emptyAlternatives (rule param kind : String) (maxRank : Nat)
  | tooManyOptionals (rule : String) (count max : Nat)
  | unknownStartKind (kind : String)
  | missingEndOfStream
  deriving DecidableEq, Repr

def CompileError.message : CompileError → String
  | .unknownKind rule param kind =>
    s!"parameter `{param}` of `{rule}`: no rule produces `{kind}`"
  | .unknownToken rule param token => s!"parameter `{param}` of `{rule}`: unknown token #{token}"
  | .emptyTerminal rule param => s!"parameter `{param}` of `{rule}`: terminal accepts no token"
  | .emptyAlternatives rule param kind maxRank =>
    s!"parameter `{param}` of `{rule}`: no rule produces `{kind}` at rank {maxRank} or lower"
  | .tooManyOptionals rule count max =>
    s!"`{rule}` has {count} optional parameters, at most {max} are allowed"
  | .unknownStartKind kind => s!"no rule produces start kind `{kind}`"
  | .missingEndOfStream => "token table declares no end-of-stream token"

namespace Compile

/-- Something that compilation did. -/
inductive Event where
  /-- A ranked type got its number. -/
  | rankedType (ranked : RankedType) (id : Nat)
  /-- The steps of a rule are known. -/
  | rule (rule : Rule)
  /-- A pair of rules was made for lists of a ranked type. -/
  | loop (ranked : RankedType) (last more : RuleId)
  /-- The token sets of a pass stopped growing. -/
  | settled (pass : String) (updates : Nat)
  deriving DecidableEq, Repr

/-- Names for journal lines, and whether to tell every rule. -/
structure Narrator where
  tokens : List String
  kinds : List String
  verbose : Bool

namespace Narrator

/-- A ranked type: its kind and rank. -/
def ranked (n : Narrator) (r : RankedType) : String :=
  let kind := (n.kinds[r.kind]?).getD "?"
  s!"{kind}({r.rank})"

/-- A step: names of tokens, numbers of rules. -/
def step (n : Narrator) : Step → String
  | .terminal tokens =>
    String.intercalate "|" (tokens.map fun t => (n.tokens[t]?).getD "?")
  | .nonTerminal rules => String.intercalate "|" (rules.map fun r => s!"#{r}")

/-- The line of an event, if it is told. -/
def line? (n : Narrator) : Event → Option String
  | .rankedType ranked id => some s!"type  {id} = {n.ranked ranked}"
  | .rule r =>
    if n.verbose then
      let steps := String.intercalate " " (r.steps.map n.step)
      let label := r.origin.action?.getD "*"
      some (Text.trimEnd s!"rule  #{r.id} {label} : {n.ranked r.ranked} -> {steps}")
    else none
  | .loop ranked last more => some s!"loop  {n.ranked ranked} end #{last} repeat #{more}"
  | .settled pass updates => some s!"fix   {pass} after {updates} updates"

/-- The lines of a journal. -/
def lines (n : Narrator) (events : List Event) : List String := events.filterMap n.line?

end Narrator

/-- A computation that keeps a journal and may fail. -/
structure Journaled (α : Type) where
  events : List Event
  outcome : Except CompileError α

namespace Journaled

variable {α β : Type}

/-- Both journals, the second after the first; nothing follows a failure. -/
def bind (m : Journaled α) (f : α → Journaled β) : Journaled β :=
  match m.outcome with
  | .ok a => ⟨m.events ++ (f a).events, (f a).outcome⟩
  | .error e => ⟨m.events, .error e⟩

/-- The same journal with another result. -/
def map (f : α → β) (m : Journaled α) : Journaled β := ⟨m.events, m.outcome.map f⟩

instance : Monad Journaled where
  pure a := ⟨[], .ok a⟩
  bind := bind
  map := map

/-- Fails. -/
def fail (e : CompileError) : Journaled α := ⟨[], .error e⟩

/-- Enters events into the journal. -/
def tell (events : List Event) : Journaled Unit := ⟨events, .ok ()⟩

/-- The value, or a failure. -/
def require (e : CompileError) : Option α → Journaled α
  | some a => ⟨[], .ok a⟩
  | none => fail e

@[simp] theorem outcome_pure (a : α) : (pure a : Journaled α).outcome = .ok a := rfl

@[simp] theorem outcome_fail (e : CompileError) : (fail e : Journaled α).outcome = .error e := rfl

@[simp] theorem outcome_tell (events : List Event) : (tell events).outcome = .ok () := rfl

@[simp] theorem outcome_require (e : CompileError) (a? : Option α) :
    (require e a?).outcome = (match a? with | some a => .ok a | none => .error e) := by
  cases a? <;> rfl

@[simp] theorem outcome_map (f : α → β) (m : Journaled α) :
    (f <$> m).outcome = m.outcome.map f := rfl

/-- Journals do not influence outcomes. -/
@[simp] theorem outcome_bind (m : Journaled α) (f : α → Journaled β) :
    (m >>= f).outcome = m.outcome.bind fun a => (f a).outcome := by
  show (bind m f).outcome = _
  unfold bind
  split <;> simp_all [Except.bind]

/-- What succeeds in sequence succeeds one after the other. -/
theorem bind_ok_iff {m : Journaled α} {f : α → Journaled β} {b : β} :
    (m >>= f).outcome = .ok b ↔ ∃ a, m.outcome = .ok a ∧ (f a).outcome = .ok b := by
  rw [outcome_bind]
  cases m.outcome <;> simp [Except.bind]

theorem map_ok_iff {m : Journaled α} {f : α → β} {b : β} :
    (f <$> m).outcome = .ok b ↔ ∃ a, m.outcome = .ok a ∧ f a = b := by
  rw [outcome_map]
  cases m.outcome <;> simp [Except.map]

theorem require_ok_iff {e : CompileError} {a? : Option α} {a : α} :
    (require e a?).outcome = .ok a ↔ a? = some a := by
  rw [outcome_require]
  cases a? <;> simp

end Journaled
end Compile
end GrammarKit
