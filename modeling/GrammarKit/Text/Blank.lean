import GrammarKit.Text.Property

/-!
# Blank ends

White space in the sense of Unicode, and texts without the white space at their
end.
-/
namespace GrammarKit.Text

/-- Whether a character is white space. -/
def isBlank (c : Char) : Bool := Property.space.contains c

/-- The text without the white space at its end. -/
def trimEnd (s : String) : String :=
  String.ofList (s.toList.reverse.dropWhile isBlank).reverse

end GrammarKit.Text
