import GrammarKit.Text.Property.Age
import GrammarKit.Text.Property.Boundary

/-!
# Named classes of characters

The classes that a pattern can name: by one name (`class?`), or by a property
and its value (`classByValue?`).
-/
namespace GrammarKit.Text.Property

/-- The rows of all versions up to one. -/
def rowsUpTo? (isLast : String → Bool) : List (String × List String) → Option (List String)
  | [] => none
  | (version, rows) :: rest =>
    if isLast version then some rows else (rowsUpTo? isLast rest).map (rows ++ ·)

/-- The characters of the version with this name, either its number or a `v` and
the digits of the number. -/
def age? (name : List Char) : Option CharSet :=
  let isNamed (version : String) : Bool :=
    version.toList = name || 'v' :: version.toList.filter (· ≠ '.') = name
  (rowsUpTo? isNamed ageRanges).map CharSet.ofTable

/-- The class with one name: a property, a general category or a script. The
abbreviations `cf`, `sc` and `lc` mean categories. -/
def class? (name : List Char) : Option CharSet :=
  let name := looseName name
  match category? name with
  | some s => some s
  | none =>
    match binary? name with
    | some s => some s
    | none => script? name

/-- The class of the characters whose property has a value. -/
def classByValue? (property value : List Char) : Option CharSet :=
  let property := looseName property
  let value := looseName value
  if property = "gc".toList ∨ property = "generalcategory".toList then category? value
  else if property = "sc".toList ∨ property = "script".toList then script? value
  else if property = "scx".toList ∨ property = "scriptextensions".toList then scriptExtension? value
  else if property = "age".toList then age? value
  else if property = "gcb".toList ∨ property = "graphemeclusterbreak".toList then
    clusterClass? value
  else if property = "wb".toList ∨ property = "wordbreak".toList then wordClass? value
  else if property = "sb".toList ∨ property = "sentencebreak".toList then sentenceClass? value
  else none

end GrammarKit.Text.Property
