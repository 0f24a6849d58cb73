import GrammarKit.Lexing.Indentation
import GrammarKit.Report.Row
import GrammarKit.Report.Source

/-!
# Long lines

A drawing is 140 columns wide. Of lines that do not fit, only a window around
the marks is drawn; deep indentation that all lines share is cut, too. Three
dots stand where a line was cut.
-/
namespace GrammarKit.Report

/-- Columns of a drawing. -/
def screenWidth : Nat := 140

/-- The columns of the lines that are drawn. -/
structure Window where
  left : Nat
  right : Nat
  /-- Columns there are for a line. -/
  room : Nat
  deriving DecidableEq, Repr

/-- Columns of the blanks that a line starts with, unless it has nothing else. -/
def indentation? (line : Text) : Option Nat :=
  if line.all Text.isBlank then none
  else some (blankWidth 4 (line.takeWhile Text.isBlank))

namespace Window

/-- Blanks kept around marks, and of an indentation that is cut. -/
def margin : Nat := 6

/-- The window for lines with marks from column `first` to column `last`. The
first rule that gives enough room holds: everything, everything but the common
indentation, the marks with as much on their left as on their right. -/
def of (lines : List Text) (first last room : Nat) : Window :=
  let indentation := ((lines.filterMap indentation?).min?.getD 0) - margin
  let first := first - margin
  let last := last + margin
  let longest := ((lines.map fun l => columns (drawing l)).max?).getD 0
  let left := if indentation > 20 then indentation - 16 else 0
  let right := longest.max left
  if right - left ≤ room then ⟨left, right, room⟩
  else if last - indentation ≤ room then ⟨indentation, indentation + room, room⟩
  else if last - first ≤ room then
    let left := first - (room - (last - first)) / 2
    ⟨left, left + room, room⟩
  else ⟨first, last, room⟩

/-- Drops characters until some columns are gone, and tells how many went. -/
def dropColumns : Nat → Text → Nat × Text
  | _, [] => (0, [])
  | 0, cs => (0, cs)
  | n + 1, c :: cs =>
    let (gone, rest) := dropColumns (n + 1 - Text.columns c) cs
    (Text.columns c + gone, rest)

/-- The longest beginning that fits into some columns. -/
def takeColumns (n : Nat) : Text → Text
  | [] => []
  | c :: cs => if Text.columns c ≤ n then c :: takeColumns (n - Text.columns c) cs else []

/-- Characters at the beginning that three dots replace. -/
def dotted (n : Nat) : Text → Nat
  | [] => 0
  | c :: cs => if n ≤ Text.columns c then 1 else dotted (n - Text.columns c) cs + 1

def dots : Row := Row.of .frame ['.', '.', '.']

/-- What is drawn of a line, and the columns cut from its left. -/
def view (w : Window) (line : Text) : Row × Nat :=
  let text := drawing line
  let len := columns text
  let right := if len - w.left ≤ w.room then len else len.min w.right
  let (left, rest) := dropColumns w.left text
  let shown := takeColumns (right - left) rest
  let row := Row.of .plain shown
  let row :=
    if w.left = 0 then row
    else
      let n := dotted 3 shown
      dots ++ Row.blanks (columns (shown.take n) - 3) ++ row.drop n
  let row := if len ≤ right then row else row.take (row.length - dotted 3 shown.reverse) ++ dots
  (row, left)

end Window
end GrammarKit.Report
