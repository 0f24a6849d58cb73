import GrammarKit.Lexing.Event
import GrammarKit.Lexing.Piece

/-!
# From pieces to tokens

Going over the pieces of a text, lexing emits a token for every lexeme, an
error for every run of stray characters, an end-of-line token for a line break
that ends something, and the indents and dedents of every margin. At the end it
closes the last line and all blocks and emits the end-of-stream token.

`Lexer.events` is the whole report, `Lexer.lex` the lexed text.
-/
namespace GrammarKit

/-- How far lexing has come. -/
structure Progress where
  /-- Byte offset of the next piece. -/
  offset : Nat
  /-- Start of the run of stray characters before it, if there is one. -/
  strayStart : Option Nat
  /-- The last token emitted. -/
  last : Option TokenId
  blocks : Indentation
  deriving DecidableEq, Repr

namespace Progress

def start : Progress := ⟨0, none, none, .start⟩

/-- After some more bytes. -/
def advance (s : Progress) (bytes : Nat) : Progress := { s with offset := s.offset + bytes }

end Progress

/-- The newlines among characters that start at an offset. -/
def innerNewlines (offset : Nat) : Text → List LexEvent
  | [] => []
  | c :: cs =>
    (if c = '\n' then [.innerNewline offset] else []) ++ innerNewlines (offset + c.utf8Size) cs

namespace Lexer

variable (lx : Lexer)

/-- Reports a run of stray characters that ends here. -/
def flush (s : Progress) : List LexEvent × Progress :=
  match s.strayStart with
  | none => ([], s)
  | some start =>
    ([.error ⟨lx.error, start, s.offset - start⟩],
      { s with strayStart := none, last := some lx.error })

/-- The end-of-line token, if one is due: not first, and not after another. -/
def dueEndOfLine (s : Progress) : Option TokenId :=
  match lx.endOfLine, s.last with
  | some eol, some last => if last = eol then none else some eol
  | _, _ => none

/-- Ends a line with `len` bytes at the present offset. -/
def endLine (s : Progress) (len : Nat) : List LexEvent × Progress :=
  match lx.dueEndOfLine s with
  | some eol => ([.token ⟨eol, s.offset, len⟩], { s with last := some eol })
  | none => ([], s)

/-- The dedents and the indent that a line of some width brings. -/
def shift (s : Progress) (width : Nat) : List LexEvent × Progress :=
  match lx.indentation with
  | none => ([], s)
  | some (indent, dedent) =>
    let (shift, blocks) := s.blocks.line width
    let dedents := List.replicate shift.dedents (LexEvent.dedent ⟨dedent, s.offset, 0⟩)
    let indents := if shift.indent then [LexEvent.indent ⟨indent, s.offset, 0⟩ width] else []
    let last := if shift.indent then some indent
      else if shift.dedents = 0 then s.last else some dedent
    (dedents ++ indents, { s with last, blocks })

/-- Reports the piece at the present offset; a run of stray characters before
it is already reported. -/
def emitPiece (s : Progress) (p : Piece) : List LexEvent × Progress :=
  match p with
  | .margin blanks =>
    let (events, s) := lx.shift (s.advance (Text.bytes blanks))
      (blankWidth lx.options.tabWidth blanks)
    (events, s)
  | .lineBreak crlf =>
    let len := Text.bytes (breakText crlf)
    let (events, s') := lx.endLine s len
    (.newline (s.offset + len - 1) false :: events, s'.advance len)
  | .comment text => (innerNewlines s.offset text, s.advance (Text.bytes text))
  | .lexeme token text =>
    let len := Text.bytes text
    (.token ⟨token, s.offset, len⟩ :: innerNewlines s.offset text,
      { s with last := some token }.advance len)
  | p => ([], s.advance (Text.bytes p.text))

/-- Reports a piece and what is due before it. -/
def emit (s : Progress) (p : Piece) : List LexEvent × Progress :=
  match p with
  | .stray c =>
    ([], { s with strayStart := some (s.strayStart.getD s.offset) }.advance c.utf8Size)
  | .joint _ _ =>
    let len := Text.bytes p.text
    let (errors, s) := lx.flush s
    (.newline (s.offset + len - 1) true :: errors, s.advance len)
  | p =>
    let (errors, s) := lx.flush s
    let (events, s) := lx.emitPiece s p
    (errors ++ events, s)

/-- Most pieces end a run of stray characters. -/
theorem emit_eq {lx : Lexer} {s : Progress} {p : Piece} (hstray : ∀ c, p ≠ .stray c)
    (hjoint : ∀ u crlf, p ≠ .joint u crlf) :
    lx.emit s p = ((lx.flush s).1 ++ (lx.emitPiece (lx.flush s).2 p).1,
      (lx.emitPiece (lx.flush s).2 p).2) := by
  unfold emit
  split
  · next c => exact absurd rfl (hstray c)
  · next u crlf => exact absurd rfl (hjoint u crlf)
  · rfl

/-- Reports the end of the text. -/
def finish (s : Progress) : List LexEvent :=
  let (errors, s) := lx.flush s
  let (events, s) := lx.endLine s 0
  let dedents := match lx.indentation with
    | some (_, dedent) =>
      List.replicate s.blocks.finish.1 (LexEvent.dedent ⟨dedent, s.offset, 0⟩)
    | none => []
  errors ++ events ++ dedents ++ [.token ⟨lx.endOfStream, s.offset, 0⟩]

/-- Reports pieces from some progress on. -/
def eventsFrom (s : Progress) : List Piece → List LexEvent
  | [] => lx.finish s
  | p :: rest => (lx.emit s p).1 ++ eventsFrom (lx.emit s p).2 rest

/-- Everything that lexing a text finds, in order. -/
def events (text : Text) : List LexEvent := lx.eventsFrom .start (lx.pieces text)

/-- The lexed text. -/
def lex (text : Text) : Lexed :=
  let events := lx.events text
  ⟨text, events.filterMap LexEvent.occurrence?, events.filterMap LexEvent.newline?,
    events.any LexEvent.isError⟩

end Lexer
end GrammarKit
