import GrammarKit.Text.Casing.Table
import GrammarKit.Text.CharSet
import GrammarKit.Text.Property

/-!
# Upper and lower case

Case mappings of characters, which may give several characters, and of whole
texts; and simple case folding, by which patterns ignore case. Two characters
are variants of each other when they fold to the same one.
-/
namespace GrammarKit.Text.Casing

/-- Where a sorted table of runs takes a code point. -/
def mapped? (c : Nat) : List CaseRange → Option Nat
  | [] => none
  | r :: rest =>
    if c < r.first then none
    else if c ≤ r.last ∧ (c - r.first) % r.step = 0 then some (((c : Int) + r.shift).toNat)
    else mapped? c rest

/-- The lower case of a character: `İ` is the only one that becomes two. -/
def lower (c : Char) : List Char :=
  if c = 'İ' then ['i', '\u0307']
  else match mapped? c.toNat lowerRanges with
    | some d => [Char.ofNat d]
    | none => [c]

/-- The upper case of a character. -/
def upper (c : Char) : List Char :=
  match mapped? c.toNat upperRanges with
  | some d => [Char.ofNat d]
  | none =>
    match upperExpansions.lookup c.toNat with
    | some ds => ds.map Char.ofNat
    | none => [c]

/-- The upper case of a text. -/
def upperText (s : String) : String := String.ofList (s.toList.flatMap upper)

/-- Whether a cased character comes next, not counting the ones that casing
ignores. -/
def casedNext (cs : List Char) : Bool :=
  match cs.dropWhile Property.caseIgnorable.contains with
  | [] => false
  | c :: _ => Property.cased.contains c

/-- Lower case of a text whose characters before it are `before`, last first. A
capital sigma that ends a word becomes a final sigma. -/
def lowerFrom (before : List Char) : List Char → List Char
  | [] => []
  | c :: rest =>
    (if c = 'Σ' then [if casedNext before && !casedNext rest then 'ς' else 'σ'] else lower c) ++
      lowerFrom (c :: before) rest

/-- The lower case of a text. -/
def lowerText (s : String) : String := String.ofList (lowerFrom [] s.toList)

/-! ## Folding -/

/-- What simple folding makes of a code point. -/
def fold (c : Nat) : Nat := (mapped? c foldRanges).getD c

/-- Every code point that folding moves, with the one it moves to. -/
def foldPairs : List (Nat × Nat) :=
  foldRanges.flatMap fun r =>
    (List.range ((r.last - r.first) / r.step + 1)).map fun i =>
      let c := r.first + i * r.step
      (c, ((c : Int) + r.shift).toNat)

/-- A set of characters with all their variants. -/
def close (s : CharSet) : CharSet :=
  let folded := (foldPairs.filter fun p => s.containsCode p.1).map (·.2)
  let t := s.union (CharSet.ofRanges (folded.map fun c => (c, c)))
  let unfolded := (foldPairs.filter fun p => t.containsCode p.2).map (·.1)
  t.union (CharSet.ofRanges (unfolded.map fun c => (c, c)))

/-- The set with both cases of its ASCII letters. -/
def closeAscii (s : CharSet) : CharSet :=
  let letters := (List.range 26).filter fun i =>
    s.containsCode (0x41 + i) || s.containsCode (0x61 + i)
  s.union (CharSet.ofRanges (letters.flatMap fun i => [(0x41 + i, 0x41 + i), (0x61 + i, 0x61 + i)]))

end GrammarKit.Text.Casing
