/-!
# Texts and byte offsets

A text is a list of characters. Positions in a text are offsets into its UTF-8
form, so a position between two characters is a sum of character widths and
every other offset lies inside a character.

`bytes` is the length of that form. `dropBytes?` and `takeBytes?` cut at an
offset and refuse the offsets that no character boundary has; `floor` and
`ceiling` move an offset to the nearest boundary at or before it, at or after
it.
-/
namespace GrammarKit

/-- A text, character by character. -/
abbrev Text := List Char

namespace Text

/-- Length of the UTF-8 form. -/
def bytes : Text → Nat
  | [] => 0
  | c :: cs => c.utf8Size + bytes cs

@[simp] theorem bytes_nil : bytes [] = 0 := rfl

@[simp] theorem bytes_cons (c : Char) (cs : Text) : bytes (c :: cs) = c.utf8Size + bytes cs := rfl

@[simp] theorem bytes_append (s t : Text) : bytes (s ++ t) = bytes s + bytes t := by
  induction s with
  | nil => simp
  | cons c s ih => simp [ih, Nat.add_assoc]

/-- The text from a byte offset on, if a character starts or the text ends there. -/
def dropBytes? : Text → Nat → Option Text
  | cs, 0 => some cs
  | [], _ + 1 => none
  | c :: cs, n + 1 => if c.utf8Size ≤ n + 1 then dropBytes? cs (n + 1 - c.utf8Size) else none

/-- The first bytes of the text, if they end between two characters. -/
def takeBytes? : Text → Nat → Option Text
  | _, 0 => some []
  | [], _ + 1 => none
  | c :: cs, n + 1 =>
    if c.utf8Size ≤ n + 1 then (takeBytes? cs (n + 1 - c.utf8Size)).map (c :: ·) else none

/-- The part of the text between two byte offsets. -/
def slice? (text : Text) (start stop : Nat) : Option Text :=
  if stop < start then none else (text.dropBytes? start).bind (·.takeBytes? (stop - start))

/-- The last character boundary at or before `n`, or the end. -/
def floor : Text → Nat → Nat
  | [], _ => 0
  | c :: cs, n => if c.utf8Size ≤ n then c.utf8Size + floor cs (n - c.utf8Size) else 0

/-- The first character boundary at or after `n`, or the end. -/
def ceiling : Text → Nat → Nat
  | [], _ => 0
  | _, 0 => 0
  | c :: cs, n + 1 => c.utf8Size + ceiling cs (n + 1 - c.utf8Size)

/-- Whether the text begins with these characters. -/
def startsWith (text start : Text) : Bool := start.isPrefixOf text

/-- The last character before a byte offset that is a character boundary. -/
def charBefore? : Text → Nat → Option Char
  | _, 0 => none
  | [], _ + 1 => none
  | c :: cs, n + 1 =>
    if n + 1 ≤ c.utf8Size then some c else charBefore? cs (n + 1 - c.utf8Size)

end Text
end GrammarKit
