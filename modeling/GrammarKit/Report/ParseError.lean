import GrammarKit.Lexing.Lexed
import GrammarKit.Token.Table

/-!
# Parse errors

A parse error tells what a parser found, what it expected instead and where. It
always points at something: an empty place stands for the character there.

Expected tokens go by the names that a `Naming` gives them, else by their own.
-/
namespace GrammarKit

/-- A token that a parser could not accept. -/
structure ParseError where
  /-- The text of the token. -/
  found : String
  /-- Names of the acceptable tokens. -/
  expected : List String
  /-- Where the token is; never empty. -/
  span : Span
  deriving DecidableEq, Repr

/-- Names a token among all the expected ones, or leaves it to its own name. -/
abbrev Naming := TokenId → List TokenId → Option String

/-- Leaves every token to its own name. -/
def Naming.none : Naming := fun _ _ => .none

namespace ParseError

/-- The error with these parts; an empty span grows to one byte. -/
def of (found : String) (expected : List String) (span : Span) : ParseError :=
  ⟨found, expected, span.atLeastOne⟩

/-- A token's own name in an error, its number if it has none. -/
def ownName (tokens : TokenTable) (t : TokenId) : String :=
  match tokens.get? t with
  | some d => s!"`{d.name}`"
  | none => s!"`#{t}`"

/-- The name of a token among all the expected ones. -/
def nameOf (naming : Naming) (tokens : TokenTable) (expected : List TokenId) (t : TokenId) :
    String :=
  (naming t expected).getD (ownName tokens t)

/-- Bytes of the character at an offset; one where no character starts. -/
def charBytesAt (text : Text) (offset : Nat) : Nat :=
  match text.dropBytes? offset with
  | some (c :: _) => c.utf8Size
  | _ => 1

/-- The error at the token with an index. A token without text goes by its name
and points at the character that follows. -/
def ofLexed (l : Lexed) (index : Nat) (expected : List TokenId) (tokens : TokenTable)
    (naming : Naming) : Except Fault ParseError := do
  let o ← l.occurrence index
  let text ← l.textOf o
  let found ← if text.isEmpty then tokens.name o.token else pure (String.ofList text)
  let len := if o.len = 0 then charBytesAt l.text o.start else o.len
  pure (of found (expected.map (nameOf naming tokens expected)) ⟨l.location o.start, len⟩)

/-- Alternatives in a sentence: commas between them, `or` before the last. -/
def alternatives : List String → String
  | [] => ""
  | [only] => only
  | [a, b] => s!"{a} or {b}"
  | a :: rest => s!"{a}, {alternatives rest}"

/-- The error in a sentence. -/
def message (e : ParseError) : String :=
  match e.expected with
  | [] => s!"unexpected `{e.found}`"
  | names => s!"expected {alternatives names}"

end ParseError
end GrammarKit
