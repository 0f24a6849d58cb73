import GrammarKit.Text.Property

/-!
# Quoted texts

A text between quotes, in which every character can be told: quotes,
backslashes and common control characters are escaped by a letter, whatever else
is invisible or attaches to its neighbour by its code point.
-/
namespace GrammarKit.Text

/-- A digit of a hexadecimal number. -/
def hexDigit (n : Nat) : Char := if n < 10 then Char.ofNat (48 + n) else Char.ofNat (87 + n)

/-- A number in hexadecimal. -/
def hexDigits (n : Nat) : List Char :=
  if n < 16 then [hexDigit n] else hexDigits (n / 16) ++ [hexDigit (n % 16)]
termination_by n
decreasing_by omega

/-- A character inside quotes. -/
def quotedChar (c : Char) : List Char :=
  match c with
  | '\x00' => ['\\', '0']
  | '\t' => ['\\', 't']
  | '\r' => ['\\', 'r']
  | '\n' => ['\\', 'n']
  | '"' => ['\\', '"']
  | '\\' => ['\\', '\\']
  | ' ' => [' ']
  | c =>
    if Property.graphemeExtend.contains c || Property.invisible.contains c then
      ['\\', 'u', '\x7b'] ++ hexDigits c.toNat ++ ['\x7d']
    else [c]

/-- A text in quotes. -/
def quoted (cs : List Char) : String := String.ofList ('"' :: cs.flatMap quotedChar ++ ['"'])

end GrammarKit.Text
