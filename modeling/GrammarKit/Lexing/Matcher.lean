import GrammarKit.Lexing.LiteralSet
import GrammarKit.Pattern.Pattern
import GrammarKit.Token.Decl

/-!
# Matchers

A matcher is the recognizer of a token ready to run: it tells whether a match
may begin with a character, how long a match can be at most, and how long the
match at a place is. `slashRegex` writes it for highlighters that take regular
expressions between slashes.
-/
namespace GrammarKit

/-- Why no lexer can be built for a token table. -/
inductive LexerError where
  | pattern (token source message : String)
  | commentPattern (source message : String)
  | missingRole (role : Role)
  | zeroTabWidth
  deriving DecidableEq, Repr

def LexerError.message : LexerError → String
  | .pattern token source message => s!"token `{token}`: invalid pattern `{source}`: {message}"
  | .commentPattern source message => s!"invalid comment pattern `{source}`: {message}"
  | .missingRole role => s!"token table declares no {role.name} token"
  | .zeroTabWidth => "tab width must be at least 1"

/-- A recognizer ready to run. -/
inductive Matcher where
  | literals (set : LiteralSet)
  | pattern (pattern : Pattern)

/-- A regular expression for highlighters: its source, in which slashes are
escaped, and its flags. -/
structure SlashRegex where
  source : String
  flags : String
  deriving DecidableEq, Repr

namespace SlashRegex

/-- Escapes the slashes of an expression. -/
def escapeSlashes (source : List Char) : List Char :=
  source.flatMap fun c => if c = '/' then ['\\', '/'] else [c]

def ofSource (source : List Char) (caseSensitive : Bool) : SlashRegex :=
  ⟨String.ofList (escapeSlashes source), if caseSensitive then "" else "i"⟩

/-- The expression between slashes, anchored at its start. -/
def text (p : SlashRegex) : String := s!"/^{p.source}/{p.flags}"

/-- Whether a character means something in a regular expression. -/
def isMeta (c : Char) : Bool := "\\.+*?()|[]\x7b\x7d^$#&-~".toList.contains c

/-- The expression that matches a literal. -/
def escape (literal : Text) : List Char :=
  literal.flatMap fun c => if isMeta c then ['\\', c] else [c]

/-- The expression that matches any of some literals. -/
def ofLiterals (literals : List Text) : List Char :=
  match literals with
  | [literal] => escape literal
  | _ => "(?:".toList ++ ['|'].intercalate (literals.map escape) ++ [')']

end SlashRegex

namespace Matcher

/-- The matcher of a declared token, if it has a recognizer. -/
def compile (d : TokenDecl) : Except (Failure LexerError) (Option Matcher) :=
  match d.spelledRecognizer with
  | none => .ok none
  | some (.literals options) =>
    (Failure.ofFault (LiteralSet.ofList (options.map (·.toList)) d.tellsCase)).map
      fun s => some (.literals s)
  | some (.pattern source start) =>
    match Pattern.compile? source d.tellsCase start with
    | some p => .ok (some (.pattern p))
    | none => .error (.error (.pattern d.name source Pattern.refusal))
  | some .ownName => .ok none

/-- The most bytes a match can have, if there is a bound. -/
def maxLen? : Matcher → Option Nat
  | literals s => some s.maxLen
  | pattern _ => none

/-- Whether a match may begin with a character. -/
def startsWith (m : Matcher) (c : Char) : Bool :=
  match m with
  | literals s => s.startsWith c
  | pattern p => p.startsWith c

/-- Characters of the match at the front of a text that has `prev` before it. -/
def matchChars (m : Matcher) (prev : Option Char) (text : Text) : Nat :=
  match m with
  | literals s => s.matchChars text
  | pattern p => p.matchChars prev text

/-- Bytes of the match at the front of a text. -/
def matchBytes (m : Matcher) (prev : Option Char) (text : Text) : Nat :=
  Text.bytes (text.take (m.matchChars prev text))

/-- Bytes of the match at a byte offset. -/
def matchLen (m : Matcher) (text : Text) (offset : Nat) : Except Fault Nat :=
  match m with
  | literals s =>
    (require .badSlice (text.dropBytes? offset)).map fun rest =>
      Text.bytes (rest.take (s.matchChars rest))
  | pattern p => p.matchLen text offset

/-- The matcher for highlighters. -/
def slashRegex : Matcher → SlashRegex
  | literals s => .ofSource (SlashRegex.ofLiterals s.literals) s.caseSensitive
  | pattern p => .ofSource p.source.toList p.caseSensitive

end Matcher
end GrammarKit
