import GrammarKit.Lexing.Indentation
import GrammarKit.Lexing.Lexer

/-!
# The pieces of a text

Lexing cuts a text into pieces: lexemes of tokens, blanks, line breaks,
comments, joints between lines, and stray characters that belong to nothing.
`Lexer.pieces` finds them from left to right; written one after the other they
are the text again.

At the start of a line that has something on it, the blanks before it form a
margin. Whether a line has something on it is decided by what is left of it
after blanks and a comment.
-/
namespace GrammarKit

/-- A piece of a text. -/
inductive Piece where
  /-- The blanks at the start of a line that has something on it, if any. -/
  | margin (blanks : Text)
  /-- A blank, or a carriage return of its own. -/
  | blank (c : Char)
  | lineBreak (crlf : Bool)
  | comment (text : Text)
  /-- A backslash, possibly a comment, and a line break. -/
  | joint (skipped : Text) (crlf : Bool)
  | lexeme (token : TokenId) (text : Text)
  | stray (c : Char)
  deriving DecidableEq, Repr

/-- The characters of a line break. -/
def breakText (crlf : Bool) : Text := if crlf then ['\r', '\n'] else ['\n']

namespace Piece

/-- The characters of a piece. -/
def text : Piece → Text
  | margin blanks => blanks
  | blank c => [c]
  | lineBreak crlf => breakText crlf
  | comment text => text
  | joint skipped crlf => '\\' :: skipped ++ breakText crlf
  | lexeme _ text => text
  | stray c => [c]

/-- Whether a new line starts after the piece. -/
def endsLine : Piece → Bool
  | lineBreak _ => true
  | _ => false

end Piece

/-- Whether a text begins with a line break, and with which one. -/
def lineBreak? : Text → Option Bool
  | '\n' :: _ => some false
  | '\r' :: '\n' :: _ => some true
  | _ => none

/-- The character before what follows some text. -/
def lastChar (prev : Option Char) (text : Text) : Option Char := text.getLast?.or prev

namespace Lexer

variable (lx : Lexer)

/-- The joint at the front of a text whose first character, a backslash, is
taken off. -/
def joint? (rest : Text) : Option Piece :=
  let n := lx.commentChars (some '\\') rest
  (lineBreak? (rest.drop n)).map fun crlf => .joint (rest.take n) crlf

/-- The piece at the front of the text `c :: rest`, inside a line. -/
def piece (prev : Option Char) (c : Char) (rest : Text) : Piece :=
  if indents c then .blank c
  else if c = '\n' then .lineBreak false
  else if c = '\r' then if rest.head? = some '\n' then .lineBreak true else .blank c
  else
    let n := lx.commentChars prev (c :: rest)
    if n ≠ 0 then .comment ((c :: rest).take n)
    else
      match if c = '\\' && lx.options.escapeNewlines then lx.joint? rest else none with
      | some p => p
      | none =>
        match lx.best prev (c :: rest) with
        | some b =>
          let lexeme := (c :: rest).take b.chars
          .lexeme (lx.refine b.token lexeme) lexeme
        | none => .stray c

/-- The margin at the start of a line, if indentation counts and the line has
something on it. -/
def margin? (prev : Option Char) (rest : Text) : Option Text :=
  if lx.indentation.isNone then none
  else
    let blanks := rest.takeWhile indents
    let after := rest.drop blanks.length
    let shown := after.drop (lx.commentChars (lastChar prev blanks) after)
    if shown.isEmpty || (lineBreak? shown).isSome then none else some blanks

/-- The pieces of a text that follows the character `prev`. -/
def piecesFrom (prev : Option Char) (atLineStart : Bool) (rest : Text) : List Piece :=
  if atLineStart then
    match lx.margin? prev rest with
    | some blanks =>
      .margin blanks :: piecesFrom (lastChar prev blanks) false (rest.drop blanks.length)
    | none => piecesFrom prev false rest
  else
    match rest with
    | [] => []
    | c :: rest =>
      let p := lx.piece prev c rest
      p :: piecesFrom (lastChar prev p.text) p.endsLine (rest.drop (p.text.length - 1))
termination_by (rest.length, atLineStart.toNat)
decreasing_by all_goals simp_all [Prod.lex_def]; try omega

/-- The pieces of a text. -/
def pieces (text : Text) : List Piece := lx.piecesFrom none true text

end Lexer
end GrammarKit
