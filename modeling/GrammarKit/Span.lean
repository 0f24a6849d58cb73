/-!
# Places in a text

Offsets, columns and lengths count bytes; lines and columns count from one.
-/
namespace GrammarKit

/-- A position in a text. -/
structure Location where
  /-- Byte offset. -/
  offset : Nat
  /-- Line, from one. -/
  line : Nat
  /-- Column, from one. -/
  column : Nat
  deriving DecidableEq, Repr

/-- `line:column`. -/
def Location.text (l : Location) : String := s!"{l.line}:{l.column}"

/-- A stretch of a text: where it starts and how long it is. -/
structure Span where
  location : Location
  len : Nat
  deriving DecidableEq, Repr

namespace Span

/-- The span, one byte long if it was empty: a report always marks something. -/
def atLeastOne (s : Span) : Span := if s.len = 0 then { s with len := 1 } else s

/-- First offset of the span and the offset after it. -/
def range (s : Span) : Nat × Nat := (s.location.offset, s.location.offset + s.len)

/-- `line:first-last`, the columns from the first to the one after the span. -/
def text (s : Span) : String :=
  s!"{s.location.line}:{s.location.column}-{s.location.column + s.len}"

end Span
end GrammarKit
