import GrammarKit.Text.Basic
import GrammarKit.Text.Blank
import GrammarKit.Text.Width

/-!
# Sources on the screen

A source is drawn line by line, tabs as four blanks and control characters as
symbols. A `Place` is where an offset falls: its line, the characters before it
on the line, and the columns that these take. An offset past the last line
falls behind that line.
-/
namespace GrammarKit.Report

/-! ## Drawn characters -/

/-- What is drawn for a character. Characters that direct the text around them
are drawn as the replacement character. -/
def drawn (c : Char) : Text :=
  if c = '\t' then [' ', ' ', ' ', ' ']
  else if c.toNat < 0x20 then [Char.ofNat (0x2400 + c.toNat)]
  else if c.toNat = 0x7f then ['␡']
  else if c.toNat = 0x200d then []
  else if (0x202a ≤ c.toNat ∧ c.toNat ≤ 0x202e) ∨ (0x2066 ≤ c.toNat ∧ c.toNat ≤ 0x2069) then
    ['\ufffd']
  else [c]

/-- What is drawn for some characters. -/
def drawing (text : Text) : Text := text.flatMap drawn

/-- Columns of what is drawn. -/
def columns : Text → Nat
  | [] => 0
  | c :: cs => Text.columns c + columns cs

/-! ## Lines -/

/-- The lines of a text, each with the newline that ends it. -/
def lines : Text → List Text
  | [] => []
  | c :: cs =>
    if c = '\n' then [c] :: lines cs
    else match lines cs with
      | [] => [[c]]
      | l :: ls => (c :: l) :: ls

/-- Lines lose nothing. -/
theorem flatten_lines (text : Text) : (lines text).flatten = text := by
  induction text with
  | nil => rfl
  | cons c cs ih =>
    unfold lines
    split
    · simp [ih]
    · split <;> simp_all

/-- A line without its line break, which is a newline or a return and a newline. -/
def body (line : Text) : Text :=
  match line.reverse with
  | '\n' :: '\r' :: rest => rest.reverse
  | '\n' :: rest => rest.reverse
  | _ => line

/-- The lines that are drawn of a text: an empty one has a line, too. -/
def drawnLines (text : Text) : List Text := if text.isEmpty then [[]] else lines text

/-! ## Places -/

/-- Where an offset falls. -/
structure Place where
  /-- Line, from one. -/
  line : Nat
  /-- Characters before the offset on the line. -/
  chars : Nat
  /-- Columns that they take. -/
  column : Nat
  deriving DecidableEq, Repr

/-- The line with an offset: its number, its text, and the offset in it. The
last line has all offsets from its start on. -/
def lineAt (number : Nat) : List Text → Nat → Nat × Text × Nat
  | [], n => (number, [], n)
  | [line], n => (number, line, n)
  | line :: rest, n =>
    if n < Text.bytes line then (number, line, n)
    else lineAt (number + 1) rest (n - Text.bytes line)

/-- The characters of a line before an offset in it. -/
def before (line : Text) (n : Nat) : Text :=
  ((body line).takeBytes? (n.min (Text.bytes (body line)))).getD []

/-- Where a range starts. Behind a line break there is one more character. -/
def startPlace (text : Text) (offset : Nat) : Place :=
  let (number, line, n) := lineAt 1 (drawnLines text) offset
  let cs := before line n
  ⟨number, cs.length + (if n > Text.bytes (body line) then 1 else 0), columns (drawing cs)⟩

/-- Where a range ends that starts at a place. Behind a line break there is one
more column, unless all of the range is on that line. -/
def stopPlace (text : Text) (start : Place) (offset : Nat) : Place :=
  let (number, line, n) := lineAt 1 (drawnLines text) offset
  let cs := before line n
  let more := if start.line ≠ number ∧ n > Text.bytes (body line) then 1 else 0
  ⟨number, cs.length + more, columns (drawing cs) + more⟩

end GrammarKit.Report
