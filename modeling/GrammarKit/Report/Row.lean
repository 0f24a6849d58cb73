/-!
# Drawing in rows

A row is a list of cells, each a character in some ink. Drawing at a column
fills up a row with blanks as far as needed and replaces what is there. A row is
written with or without the codes that turn inks on and off.
-/
namespace GrammarKit.Report

/-- What a character is drawn with. -/
inductive Ink where
  | plain
  /-- The message of a report. -/
  | message
  /-- What is wrong. -/
  | alarm
  /-- Line numbers and the bar beside them. -/
  | frame
  deriving DecidableEq, Repr

/-- The code that turns an ink on. -/
def Ink.code : Ink → String
  | plain => ""
  | message => "\x1b[1m"
  | alarm => "\x1b[1m\x1b[91m"
  | frame => "\x1b[1m\x1b[94m"

/-- The code that turns an ink off. -/
def Ink.reset : Ink → String
  | plain => ""
  | _ => "\x1b[0m"

/-- A character in an ink. -/
structure Cell where
  char : Char
  ink : Ink
  deriving DecidableEq, Repr

/-- A row of cells. -/
abbrev Row := List Cell

namespace Row

/-- Characters in one ink. -/
def of (ink : Ink) (text : List Char) : Row := text.map (⟨·, ink⟩)

/-- Blanks. -/
def blanks (n : Nat) : Row := List.replicate n ⟨' ', .plain⟩

/-- Draws cells at a column. -/
def draw (row : Row) (column : Nat) (cells : Row) : Row :=
  row.take column ++ blanks (column - row.length) ++ cells ++ row.drop (column + cells.length)

/-- The characters of a row. -/
def plainText (row : Row) : String := String.ofList (row.map Cell.char)

/-- Writes cells that follow one in the ink `last`. -/
def codedFrom (last : Ink) : Row → String
  | [] => last.reset
  | cell :: rest =>
    let change := if cell.ink = last then "" else last.reset ++ cell.ink.code
    change ++ String.singleton cell.char ++ codedFrom cell.ink rest

/-- The characters of a row with the codes of their inks. -/
def coded (row : Row) : String := codedFrom .plain row

end Row
end GrammarKit.Report
