import GrammarKit.Report.ParseError
import GrammarKit.Report.Window

/-!
# Snippets

A snippet draws the lines of a source that a parse error is about, under the
message of the error:

    error: expected `Semi`
     --> main.syn:1:5
      |
    1 | let x
      |     ^

A range on one line has carets under it. A range over several lines has a bar
beside it, which starts at the character that the range starts with and ends at
its last one:

    1 |   let x            1 | / a
      |  _____^            2 | | b
    2 | | foo             3 | | c
      | |_^                 | |_^

Of long ranges only the ends are drawn.
-/
namespace GrammarKit.Report

/-- Moves the ends of a range to character boundaries, the start to the left and
the end to the right; a range outside the text shrinks to the end of the text. -/
def snap (text : Text) (range : Nat × Nat) : Nat × Nat :=
  let start := text.floor range.1
  (start, text.ceiling (start.max range.2))

/-! ## What is drawn -/

/-- What is drawn at a line. -/
inductive Mark where
  /-- Carets from one column to another. -/
  | carets (first stop : Nat)
  /-- The start of a bar at a column. -/
  | opening (column : Nat)
  /-- A bar. -/
  | bar
  /-- The end of a bar at a column. -/
  | closing (column : Nat)
  deriving DecidableEq, Repr

namespace Mark

/-- The columns that a mark needs to be seen. -/
def extent : Mark → Nat × Nat
  | carets first stop => (first, stop)
  | opening column => (column, column + 1)
  | bar => (0, 0)
  | closing column => (column, column + 1)

/-- Whether a mark has a bar beside it. -/
def isBarred : Mark → Bool
  | carets _ _ => false
  | _ => true

end Mark

/-- A line that is drawn with a mark. -/
structure Marked where
  number : Nat
  mark : Mark
  deriving DecidableEq, Repr

/-- Whether a line says something: more than one bracket, and no comment. -/
def isTelling (line : Text) : Bool :=
  let s := ((line.dropWhile Text.isBlank).reverse.dropWhile Text.isBlank).reverse
  let isComment := Text.startsWith s ['/', '/'] &&
    !(Text.startsWith s ['/', '/', '/'] || Text.startsWith s ['/', '/', '!'])
  !isComment && !([[], ['\x7b'], ['\x7d'], ['('], [')'], ['['], [']']].contains s)

/-- The text of a line by its number. -/
def lineText (lines : List Text) (number : Nat) : Text := body (lines.getD (number - 1) [])

/-- The lines of a range over several lines: of the first four all up to the last
one that says something, and the last two, the one before the end only if it says
something. -/
def markedLines (lines : List Text) (start stop : Place) : List Marked :=
  let middle := (start.line + 4).min stop.line
  let telling := ((List.range (middle - start.line)).map (start.line + ·)).filter
    fun n => isTelling (lineText lines n)
  let last := telling.getLastD (start.line - 1)
  let leading := (List.range (last - start.line)).map fun i => Marked.mk (start.line + 1 + i) .bar
  let trailing :=
    if middle < stop.line - 1 && isTelling (lineText lines (stop.line - 1)) then
      [Marked.mk (stop.line - 1) .bar]
    else []
  [⟨start.line, .opening start.column⟩] ++ leading ++ trailing ++
    [⟨stop.line, .closing (stop.column - 1)⟩]

/-- The marks for a range between two places. -/
def marks (lines : List Text) (start stop : Place) : List Marked :=
  if start.line = stop.line then
    [⟨start.line, .carets start.column (stop.column.max (start.column + 1))⟩]
  else markedLines lines start stop

/-! ## Drawing -/

/-- The frame of a drawing: columns for line numbers, whether there is a bar,
and which columns of the lines are seen. -/
structure Frame where
  gutter : Nat
  barred : Bool
  window : Window
  deriving DecidableEq, Repr

namespace Frame

/-- Column of the bar. -/
def barColumn (gutter : Nat) : Nat := gutter + 3

/-- Column where lines start. -/
def codeColumn (gutter : Nat) (barred : Bool) : Nat := if barred then gutter + 5 else gutter + 3

variable (f : Frame)

/-- The row beside a line without a number. -/
def edge (gutter : Nat) : Row := Row.draw [] (gutter + 1) (Row.of .frame ['|'])

/-- The row beside a line with a number. -/
def numbered (gutter number : Nat) : Row :=
  let digits := (toString number).toList
  (edge gutter).draw (gutter - digits.length) (Row.of .frame digits)

/-- A row with a bar, or another sign in its place. -/
def withBar (row : Row) (sign : Char) : Row :=
  row.draw (barColumn f.gutter) (Row.of .alarm [sign])

/-- The row of a line, and the columns cut from the line. -/
def line (number : Nat) (text : Text) : Row × Nat :=
  let (code, left) := f.window.view text
  let row := numbered f.gutter number
  (if code.isEmpty then row else row.draw (codeColumn f.gutter f.barred) code, left)

/-- A row with carets from one column of a line to another, of which some are cut. -/
def underlined (row : Row) (left first stop : Nat) : Row :=
  (List.range (stop - first)).foldl (fun row i =>
    row.draw (codeColumn f.gutter f.barred + first + i - left) (Row.of .alarm ['^'])) row

/-- The row that leads from the bar to a caret. -/
def lead (row : Row) (left column : Nat) : Row :=
  let first := barColumn f.gutter + 1
  let stop := codeColumn f.gutter f.barred + column - left
  f.underlined (row.draw first (Row.of .alarm (List.replicate (stop - first) '_')))
    left column (column + 1)

/-- The rows of a marked line. A bar that starts with the line needs no row of
its own. -/
def marked (text : Text) (m : Marked) : List Row :=
  let (row, left) := f.line m.number text
  match m.mark with
  | .carets first stop => [row, f.underlined (edge f.gutter) left first stop]
  | .opening column =>
    if ((drawing text).take column).all Text.isBlank then [f.withBar row '/']
    else [row, f.lead (f.withBar (edge f.gutter) ' ') left column]
  | .bar => [f.withBar row '|']
  | .closing column =>
    [f.withBar row '|', f.lead (f.withBar (edge f.gutter) '|') left column]

/-- The rows between two marked lines: a single line is drawn, more are left out. -/
def between (lines : List Text) (m next : Marked) : List Row :=
  if next.number = m.number + 2 then
    [f.withBar (f.line (m.number + 1) (lineText lines (m.number + 1))).1 '|']
  else if m.number + 2 < next.number then [f.withBar Window.dots '|']
  else []

/-- The rows of marked lines and of what is between them. -/
def rows (lines : List Text) : List Marked → List Row
  | [] => []
  | [m] => f.marked (lineText lines m.number) m
  | m :: next :: rest =>
    f.marked (lineText lines m.number) m ++ f.between lines m next ++ rows lines (next :: rest)

end Frame

/-! ## Reports -/

/-- How to draw a report. -/
structure Style where
  /-- The path of the source, to be told. -/
  path : Option String
  /-- Whether to write the codes of inks. -/
  colored : Bool
  deriving DecidableEq, Repr

/-- Splits a text at newlines. -/
def splitNewlines : Text → List Text
  | [] => [[]]
  | c :: cs =>
    if c = '\n' then [] :: splitNewlines cs
    else match splitNewlines cs with
      | l :: ls => (c :: l) :: ls
      | [] => [[c]]

/-- The word that a report starts with. -/
def severity : List Char := "error".toList

/-- The rows of the message; the lines after the first stand below its text. -/
def headline (message : String) : List Row :=
  match splitNewlines message.toList with
  | [] => []
  | first :: rest =>
    (Row.of .alarm severity ++ Row.of .message (": ".toList ++ drawing first)) ::
      rest.map fun l => Row.blanks (severity.length + 2) ++ Row.of .message (drawing l)

/-- The row that tells where a report points. -/
def origin (gutter : Nat) (path : String) (start : Place) : Row :=
  Row.blanks gutter ++ Row.of .frame "--> ".toList ++
    Row.of .plain s!"{path}:{start.line}:{start.chars + 1}".toList

/-- The rows of a report about a range of a source. -/
def reportRows (message : String) (path : Option String) (source : Text) (range : Nat × Nat) :
    List Row :=
  let start := startPlace source range.1
  let stop := if range.1 = range.2 then start else stopPlace source start range.2
  let all := drawnLines source
  let ms := marks all start stop
  let gutter := (toString stop.line).length
  let barred := ms.any (·.mark.isBarred)
  let window := Window.of (ms.map fun m => lineText all m.number)
    (((ms.map (·.mark.extent.1)).min?).getD 0) (((ms.map (·.mark.extent.2)).max?).getD 0)
    (screenWidth - Frame.codeColumn gutter barred)
  headline message ++ (path.map fun p => origin gutter p start).toList ++ [Frame.edge gutter] ++
    Frame.rows ⟨gutter, barred, window⟩ all ms

/-- A parse error with the lines of the source that it is about. -/
def render (style : Style) (source : Text) (e : ParseError) : String :=
  let rows := reportRows e.message style.path source (snap source e.span.range)
  String.intercalate "\n" (rows.map fun row => if style.colored then row.coded else row.plainText)

end GrammarKit.Report
