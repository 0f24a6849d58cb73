import GrammarKit.Text.Basic

/-!
# Indentation

The widths of the open blocks form a stack with the innermost on top. A line of
a larger width opens a block; a line of a smaller width closes all wider blocks
and, if its own width is then new, opens one:

    A        (0)
      B      (2)   indent
        C    (4)   indent
      D      (2)   dedent
         E   (5)   indent
    F        (0)   dedent dedent
      H      (2)   indent
     I       (1)   dedent indent
                   dedent (end of stream)

Below the open blocks lies the width zero, which no line closes; it is not kept
on the stack.
-/
namespace GrammarKit

/-- What a line closes and opens. -/
structure Shift where
  /-- Blocks closed, before one is opened. -/
  dedents : Nat
  /-- Whether a block is opened. -/
  indent : Bool
  deriving DecidableEq, Repr

def Shift.isEmpty (s : Shift) : Bool := s.dedents = 0 && !s.indent

/-- The widths of the open blocks, innermost first. -/
structure Indentation where
  widths : List Nat
  deriving DecidableEq, Repr

namespace Indentation

def start : Indentation := ⟨[]⟩

/-- The width of the innermost block. -/
def current (s : Indentation) : Nat := s.widths.headD 0

/-- Number of open blocks. -/
def depth (s : Indentation) : Nat := s.widths.length

/-- The blocks that a line of this width leaves open. -/
def within (s : Indentation) (width : Nat) : Indentation := ⟨s.widths.dropWhile (width < ·)⟩

/-- Takes in the width of a line. -/
def line (s : Indentation) (width : Nat) : Shift × Indentation :=
  let inner := s.within width
  let dedents := s.depth - inner.depth
  if inner.current = width then (⟨dedents, false⟩, inner)
  else (⟨dedents, true⟩, ⟨width :: inner.widths⟩)

/-- Closes all blocks and tells how many there were. -/
def finish (s : Indentation) : Nat × Indentation := (s.depth, start)

end Indentation

/-- Whether a character indents. -/
def indents (c : Char) : Bool := c = ' ' || c = '\t'

/-- Columns of leading blanks: a tab counts for `tabWidth`. -/
def blankWidth (tabWidth : Nat) : Text → Nat
  | [] => 0
  | c :: cs => (if c = '\t' then tabWidth else 1) + blankWidth tabWidth cs

/-- Width of the indentation of a line, and the bytes it takes. -/
def measure (line : Text) (tabWidth : Nat) : Nat × Nat :=
  let blanks := line.takeWhile indents
  (blankWidth tabWidth blanks, Text.bytes blanks)

end GrammarKit
