/-!
# Insertion-ordered maps

A map as a list of entries in the order in which their keys came first. Looking
up finds the first entry of a key; putting a value under a known key keeps the
key's place.
-/
namespace GrammarKit

/-- Entries in the order of their first insertion. -/
abbrev Assoc (κ α : Type) := List (κ × α)

namespace Assoc

variable {κ α : Type} [DecidableEq κ]

/-- The value under a key. -/
def get? : Assoc κ α → κ → Option α
  | [], _ => none
  | (k, a) :: rest, key => if k = key then some a else get? rest key

/-- The place of a key, counted from zero. -/
def index? : Assoc κ α → κ → Option Nat
  | [], _ => none
  | (k, _) :: rest, key => if k = key then some 0 else (index? rest key).map (· + 1)

/-- Whether a key has a value. -/
def contains (m : Assoc κ α) (key : κ) : Bool := (m.get? key).isSome

/-- Gives a key the value `f` makes of its old one; a new key goes last. -/
def alter (f : Option α → α) : Assoc κ α → κ → Assoc κ α
  | [], key => [(key, f none)]
  | (k, a) :: rest, key =>
    if k = key then (k, f (some a)) :: rest else (k, a) :: alter f rest key

/-- Puts a value under a key: in the key's place if it has one, else last. -/
def put (m : Assoc κ α) (key : κ) (a : α) : Assoc κ α := m.alter (fun _ => a) key

/-- The map with these entries put one after the other. -/
def ofEntries (entries : List (κ × α)) : Assoc κ α :=
  entries.foldl (fun m e => put m e.1 e.2) []

/-- An altered key has the new value, every other key its old one. -/
theorem get?_alter (f : Option α → α) (m : Assoc κ α) (key k : κ) :
    (m.alter f key).get? k = if k = key then some (f (m.get? key)) else m.get? k := by
  induction m with
  | nil => grind [alter, get?]
  | cons e m ih => grind [alter, get?]

@[simp] theorem get?_put (m : Assoc κ α) (key k : κ) (a : α) :
    (m.put key a).get? k = if k = key then some a else m.get? k := by
  simp [put, get?_alter]

end Assoc
end GrammarKit
