/-!
# Sets of characters

A set of characters is a list of code point ranges, ascending and apart. Every
operation goes through `normalize`, which sorts ranges and joins those that
touch, and `complement`, which lists the gaps between them.
-/
namespace GrammarKit.Text

/-- A set of characters as ranges `(first, last)` of code points. -/
structure CharSet where
  ranges : List (Nat × Nat)
  deriving DecidableEq, Repr

namespace CharSet

/-- The last code point. -/
def top : Nat := 0x10ffff

/-- The code points that are no characters. -/
def surrogates : Nat × Nat := (0xd800, 0xdfff)

/-- Joins a range with the ones after it that touch it. -/
def coalesce (lo hi : Nat) : List (Nat × Nat) → List (Nat × Nat)
  | [] => [(lo, hi)]
  | (a, b) :: rest =>
    if a ≤ hi + 1 then coalesce lo (hi.max b) rest else (lo, hi) :: coalesce a b rest

/-- Ranges in any order and overlap, as ascending ranges apart. -/
def normalize (rs : List (Nat × Nat)) : List (Nat × Nat) :=
  match (rs.filter fun r => r.1 ≤ r.2).mergeSort (fun a b => a.1 ≤ b.1) with
  | [] => []
  | (a, b) :: rest => coalesce a b rest

/-- The gaps from `lo` on between ascending ranges. -/
def gaps (lo : Nat) : List (Nat × Nat) → List (Nat × Nat)
  | [] => if lo ≤ top then [(lo, top)] else []
  | (a, b) :: rest => if lo < a then (lo, a - 1) :: gaps (b + 1) rest else gaps (b + 1) rest

/-- The set of these ranges. -/
def ofRanges (rs : List (Nat × Nat)) : CharSet := ⟨normalize rs⟩

def empty : CharSet := ⟨[]⟩

/-- The set of one character. -/
def singleton (c : Char) : CharSet := ⟨[(c.toNat, c.toNat)]⟩

def isEmpty (s : CharSet) : Bool := s.ranges.isEmpty

/-- Whether ascending ranges hold a code point. -/
def holds (c : Nat) : List (Nat × Nat) → Bool
  | [] => false
  | (a, b) :: rest => if c < a then false else c ≤ b || holds c rest

/-- Whether a code point is in the set. -/
def containsCode (s : CharSet) (c : Nat) : Bool := holds c s.ranges

/-- Whether a character is in the set. -/
def contains (s : CharSet) (c : Char) : Bool := s.containsCode c.toNat

def union (s t : CharSet) : CharSet := ofRanges (s.ranges ++ t.ranges)

/-- The characters outside the set. -/
def complement (s : CharSet) : CharSet := ⟨gaps 0 (normalize (surrogates :: s.ranges))⟩

def inter (s t : CharSet) : CharSet := (s.complement.union t.complement).complement

def diff (s t : CharSet) : CharSet := s.inter t.complement

/-- The characters in exactly one of the sets. -/
def symmDiff (s t : CharSet) : CharSet := (s.union t).diff (s.inter t)

/-- Whether every character of the set is ASCII. -/
def isAscii (s : CharSet) : Bool := s.ranges.all fun r => r.2 < 0x80

/-! ## Reading tables -/

/-- The value of a hexadecimal digit. -/
def hexDigit? (c : Char) : Option Nat :=
  if '0' ≤ c ∧ c ≤ '9' then some (c.toNat - 48)
  else if 'a' ≤ c ∧ c ≤ 'f' then some (c.toNat - 87)
  else if 'A' ≤ c ∧ c ≤ 'F' then some (c.toNat - 55)
  else none

/-- The number that hexadecimal digits spell. -/
def hexNumber (cs : List Char) : Nat := cs.foldl (fun n c => 16 * n + (hexDigit? c).getD 0) 0

/-- The code points of one table entry: `a`, `a-b`, or `a-b/2` for every second
one from `a` to `b`. -/
def tableEntry (cs : List Char) : List (Nat × Nat) :=
  let first := hexNumber (cs.takeWhile (· ≠ '-'))
  match cs.dropWhile (· ≠ '-') with
  | [] => [(first, first)]
  | _ :: rest =>
    let last := hexNumber (rest.takeWhile (· ≠ '/'))
    if rest.contains '/' then
      (List.range ((last - first) / 2 + 1)).map fun i => (first + 2 * i, first + 2 * i)
    else [(first, last)]

/-- Splits at blanks. -/
def words : List Char → List (List Char)
  | [] => [[]]
  | c :: cs =>
    match words cs with
    | w :: ws => if c = ' ' then [] :: w :: ws else (c :: w) :: ws
    | [] => [[c]]

/-- The set that the rows of a table spell. -/
def ofTable (rows : List String) : CharSet :=
  ofRanges (rows.flatMap fun row => (words row.toList).flatMap tableEntry)

end CharSet
end GrammarKit.Text
