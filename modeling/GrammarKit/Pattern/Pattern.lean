import GrammarKit.Fault
import GrammarKit.Pattern.Program
import GrammarKit.Pattern.Reader
import GrammarKit.Text.Basic

/-!
# Patterns

A pattern is a regular expression ready to run at a place in a text. Of the
matches that begin there it takes the one that the expression prefers, which
need not be the longest. The anchors look at the whole text.
-/
namespace GrammarKit

/-- A compiled regular expression. -/
structure Pattern where
  /-- The expression as it was written. -/
  source : String
  caseSensitive : Bool
  /-- The characters that a match may begin with, if they are restricted. -/
  start : Option (List Char)
  program : Pattern.Program

namespace Pattern

/-- What there is to say about an expression that is refused. -/
def refusal : String := "error building NFA"

/-- The pattern that a text spells. -/
def compile? (source : String) (caseSensitive : Bool) (start : Option String) : Option Pattern :=
  (read? (!caseSensitive) source.toList).map fun e =>
    ⟨source, caseSensitive, start.map (·.toList), e.program⟩

/-- Whether a match may begin with a character. -/
def startsWith (p : Pattern) (c : Char) : Bool := p.start.all (·.contains c)

/-- Characters of the match at the front of a text that has `prev` before it. -/
def matchChars (p : Pattern) (prev : Option Char) (text : Text) : Nat :=
  p.program.search prev text

/-- Bytes of the match at a byte offset. No match begins inside a character, nor
right behind the end of the text; farther behind it there is no place at all. -/
def matchLen (p : Pattern) (text : Text) (offset : Nat) : Except Fault Nat :=
  if offset > Text.bytes text + 1 then .error .searchPastEnd
  else match text.dropBytes? offset with
    | none => .ok 0
    | some rest => .ok (Text.bytes (rest.take (p.matchChars (text.charBefore? offset) rest)))

end Pattern
end GrammarKit
