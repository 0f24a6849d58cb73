import GrammarKit.Fault
import GrammarKit.Span
import GrammarKit.Text.Basic
import GrammarKit.Token.Decl

/-!
# Lexed texts

A lexed text is a text with the tokens that occur in it and an index of its
newlines, which turns offsets into lines and columns. A newline belongs to the
line it ends.
-/
namespace GrammarKit

/-- A token at a place in a text. -/
structure Occurrence where
  token : TokenId
  /-- Byte offset of the first character. -/
  start : Nat
  /-- Length in bytes. -/
  len : Nat
  deriving DecidableEq, Repr

/-- The offset after an occurrence. -/
def Occurrence.stop (o : Occurrence) : Nat := o.start + o.len

/-- A text and what was found in it. -/
structure Lexed where
  text : Text
  occurrences : List Occurrence
  /-- Byte offsets of newlines, ascending. -/
  newlines : List Nat
  /-- Whether something in the text belongs to no token. -/
  hasInvalid : Bool
  deriving DecidableEq, Repr

namespace Lexed

/-- Whether numbers ascend. -/
def ascends : List Nat → Bool
  | a :: b :: rest => a < b && ascends (b :: rest)
  | _ => true

/-- A lexed text of these parts, whose newlines must ascend. -/
def ofParts (l : Lexed) : Except Fault Lexed :=
  if ascends l.newlines then .ok l else .error .newlinesOutOfOrder

variable (l : Lexed)

/-- The occurrence with an index. -/
def occurrence (i : Nat) : Except Fault Occurrence := require .outOfRange l.occurrences[i]?

/-- Number of newlines before an offset. -/
def newlinesBefore (offset : Nat) : Nat := (l.newlines.takeWhile (· < offset)).length

/-- Line and column of an offset. -/
def lineOf (offset : Nat) : Nat × Nat :=
  match l.newlines.takeWhile (· < offset) with
  | [] => (1, offset + 1)
  | n :: ns => (ns.length + 2, offset - (n :: ns).getLastD 0)

/-- An offset with its line and column. -/
def location (offset : Nat) : Location :=
  let (line, column) := l.lineOf offset
  ⟨offset, line, column⟩

/-- Where the occurrence with an index is. -/
def span (i : Nat) : Except Fault Span :=
  (l.occurrence i).map fun o => ⟨l.location o.start, o.len⟩

/-- The characters of an occurrence. There are none at the end of the text and
on a line terminator. -/
def textOf (o : Occurrence) : Except Fault Text :=
  if Text.bytes l.text ≤ o.start then .ok []
  else match l.text.dropBytes? o.start with
    | none => .error .badSlice
    | some rest =>
      if rest.head? = some '\n' ∨ rest.head? = some '\r' then .ok []
      else require .badSlice (rest.takeBytes? o.len)

/-- The characters of the occurrence with an index. -/
def textAt (i : Nat) : Except Fault Text := do l.textOf (← l.occurrence i)

end Lexed
end GrammarKit
