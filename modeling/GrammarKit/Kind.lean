/-!
# Node kinds

A kind is what a rule produces. Kinds are declared by name and carried around
as numbers; a table gives each name the number of names declared before it.
-/
namespace GrammarKit

/-- Number of a node kind. -/
abbrev Kind := Nat

/-- Kind names in the order of their numbers. -/
structure KindTable where
  names : List String
  deriving DecidableEq, Repr

/-- Place of the last element equal to `a`. -/
def lastIndex? {α : Type} [DecidableEq α] (a : α) : List α → Option Nat
  | [] => none
  | b :: rest =>
    match lastIndex? a rest with
    | some i => some (i + 1)
    | none => if b = a then some 0 else none

namespace KindTable

def empty : KindTable := ⟨[]⟩

/-- Number of a declared name. A table read from a blob may repeat a name: the
last one counts. -/
def get? (t : KindTable) (name : String) : Option Kind := lastIndex? name t.names

/-- Number of a name, which is declared if it is new. -/
def intern (t : KindTable) (name : String) : Kind × KindTable :=
  match t.get? name with
  | some k => (k, t)
  | none => (t.names.length, ⟨t.names ++ [name]⟩)

/-- Name of a kind. -/
def name? (t : KindTable) (k : Kind) : Option String := t.names[k]?

/-- Whether the number is the number of a kind. -/
def contains (t : KindTable) (k : Kind) : Bool := k < t.names.length

/-- Number of kinds. -/
def size (t : KindTable) : Nat := t.names.length

end KindTable
end GrammarKit
