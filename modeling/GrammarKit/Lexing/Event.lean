import GrammarKit.Lexing.Lexed
import GrammarKit.Text.Quoted

/-!
# What lexing reports

Lexing a text yields events: tokens, indents and dedents, runs of characters
that belong to nothing, and newlines. Everything else is a view of the events:
the occurrences and newlines of the lexed text, and the lines that tell about
the pass.
-/
namespace GrammarKit

/-- Something that lexing found. -/
inductive LexEvent where
  | token (place : Occurrence)
  /-- A line opens a block of the given width. -/
  | indent (place : Occurrence) (width : Nat)
  | dedent (place : Occurrence)
  /-- A run of characters that belong to nothing. -/
  | error (place : Occurrence)
  /-- A newline that ends a line or joins two. -/
  | newline (offset : Nat) (escaped : Bool)
  /-- A newline inside a token or a comment. -/
  | innerNewline (offset : Nat)
  deriving DecidableEq, Repr

namespace LexEvent

/-- The token that occurs with an event. -/
def occurrence? : LexEvent → Option Occurrence
  | token o | indent o _ | dedent o | error o => some o
  | newline _ _ | innerNewline _ => none

/-- The newline that an event is about. -/
def newline? : LexEvent → Option Nat
  | newline offset _ | innerNewline offset => some offset
  | _ => none

def isError : LexEvent → Bool
  | error _ => true
  | _ => false

end LexEvent

/-- How much to tell about lexing. -/
inductive LexVerbosity where
  /-- Tokens by name, blocks and errors. -/
  | brief
  /-- Also the text of tokens. -/
  | verbose
  /-- Also newlines and the widths of blocks. -/
  | full
  deriving DecidableEq, Repr

/-- What the lines about lexing need: the text and the names of its tokens. -/
structure LexNarrator where
  source : Text
  names : List String
  verbosity : LexVerbosity

namespace LexNarrator

variable (n : LexNarrator)

/-- The name of a token. -/
def name (t : TokenId) : String := (n.names[t]?).getD "?"

/-- The quoted characters of an occurrence, none if it cuts a character. -/
def quoted (o : Occurrence) : String :=
  Text.quoted ((n.source.slice? o.start o.stop).getD [])

/-- A line: the offset in five columns or more, and what is there. -/
def line (offset : Nat) (body : String) : String :=
  let digits := toString offset
  digits ++ String.ofList (List.replicate (5 - digits.length) ' ') ++ " " ++ body

/-- The line about an event, if it is told. -/
def line? : LexEvent → Option String
  | .token o =>
    some (line o.start
      (if n.verbosity = .brief ∨ o.len = 0 then n.name o.token
       else s!"{n.name o.token} {n.quoted o}"))
  | .indent o width =>
    some (line o.start (if n.verbosity = .full then s!"indent {width}" else "indent"))
  | .dedent o => some (line o.start "dedent")
  | .error o => some (line o.start s!"error {n.quoted o}")
  | .newline offset escaped =>
    if n.verbosity = .full then
      some (line offset (if escaped then "newline (escaped)" else "newline"))
    else none
  | .innerNewline _ => none

/-- The lines about some events. -/
def lines (events : List LexEvent) : List String := events.filterMap n.line?

end LexNarrator
end GrammarKit
