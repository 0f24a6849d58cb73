import GrammarKit.Fault
import GrammarKit.Text.Basic
import GrammarKit.Text.Casing

/-!
# Sets of literals

A set of literals matches the first of its members, longest written form first,
that the text begins with. Without case, characters match if they are equal or
have the same lower case.
-/
namespace GrammarKit

/-- Literals, those with the most bytes first. -/
structure LiteralSet where
  literals : List Text
  caseSensitive : Bool
  deriving DecidableEq, Repr

namespace LiteralSet

/-- The set of some literals, none of them empty. Literals of equal length keep
their order. -/
def ofList (literals : List Text) (caseSensitive : Bool) : Except Fault LiteralSet :=
  if literals.any (·.isEmpty) then .error .emptyLiteral
  else .ok ⟨literals.mergeSort fun a b => Text.bytes b ≤ Text.bytes a, caseSensitive⟩

/-- Whether two characters count as the same. -/
def sameChar (caseSensitive : Bool) (actual expected : Char) : Bool :=
  actual = expected ||
    (!caseSensitive && Text.Casing.lower actual = Text.Casing.lower expected)

/-- Whether a text begins with a literal, character by character. -/
def beginsWith (caseSensitive : Bool) : (text literal : Text) → Bool
  | _, [] => true
  | [], _ :: _ => false
  | c :: text, d :: literal => sameChar caseSensitive c d && beginsWith caseSensitive text literal

variable (s : LiteralSet)

/-- Number of characters of the literal that matches; zero if none does. -/
def matchChars (text : Text) : Nat :=
  ((s.literals.find? (beginsWith s.caseSensitive text)).map List.length).getD 0

/-- The characters that a literal may begin with: its first one in either case. -/
def firstChars : List Char :=
  s.literals.flatMap fun l =>
    match l with
    | [] => []
    | c :: _ => c :: Text.Casing.lower c ++ Text.Casing.upper c

/-- Whether a match may begin with a character. -/
def startsWith (c : Char) : Bool := s.firstChars.contains c

/-- The most bytes a match can have. Without case any character can stand for
one of another width, up to four bytes. -/
def maxLen : Nat :=
  (s.literals.map fun l => if s.caseSensitive then Text.bytes l else 4 * l.length).foldl Nat.max 0

end LiteralSet
end GrammarKit
