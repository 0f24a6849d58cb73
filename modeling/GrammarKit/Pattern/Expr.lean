import GrammarKit.Text.CharSet

/-!
# Regular expressions

An expression is built from characters, sets of characters and assertions by
sequence, ordered choice and repetition. The functions `seq`, `choice` and
`repeated` build expressions in a simplified form: nested sequences and choices
are flat, neighbouring characters are joined to one literal, a choice between
single characters is a set, and what all branches of a choice begin with stands
before the choice.

Sequences and choices nest to the right, so `items` and `branches` are their
members.
-/
namespace GrammarKit.Pattern

open Text (CharSet)

/-- A condition on the place between two characters. Word assertions look at
words of ASCII letters, digits and `_`; `unicode` marks those that stand for
all words and are undefined beside other characters. -/
inductive Look where
  | textStart
  | textEnd
  | lineStart
  | lineEnd
  | crlfStart
  | crlfEnd
  | wordBoundary (unicode : Bool)
  | notWordBoundary (unicode : Bool)
  | wordStart (unicode : Bool)
  | wordEnd (unicode : Bool)
  | wordStartHalf (unicode : Bool)
  | wordEndHalf (unicode : Bool)
  deriving DecidableEq, Repr

/-- Whether a character belongs to an ASCII word. -/
def isWordChar (c : Char) : Bool :=
  ('a' ≤ c && c ≤ 'z') || ('A' ≤ c && c ≤ 'Z') || ('0' ≤ c && c ≤ '9') || c = '_'

namespace Look

/-- Whether the condition speaks about words of any letters. -/
def isUnicodeWord : Look → Bool
  | wordBoundary u | notWordBoundary u | wordStart u | wordEnd u | wordStartHalf u
  | wordEndHalf u => u
  | _ => false

/-- Whether the condition is known to hold from the character before alone. -/
def holdsBehind (prev : Option Char) : Look → Bool
  | textStart => prev.isNone
  | lineStart | crlfStart => prev.isNone || prev = some '\n'
  | wordStartHalf _ => !prev.any isWordChar
  | _ => false

/-- Whether the condition holds between two characters, or an end of the text. -/
def holds (prev next : Option Char) : Look → Bool
  | textStart => prev.isNone
  | textEnd => next.isNone
  | lineStart => prev.isNone || prev = some '\n'
  | lineEnd => next.isNone || next = some '\n'
  | crlfStart => prev.isNone || prev = some '\n' || (prev = some '\r' && next ≠ some '\n')
  | crlfEnd => next.isNone || next = some '\r' || (next = some '\n' && prev ≠ some '\r')
  | wordBoundary _ => prev.any isWordChar ≠ next.any isWordChar
  | notWordBoundary _ => prev.any isWordChar = next.any isWordChar
  | wordStart _ => !prev.any isWordChar && next.any isWordChar
  | wordEnd _ => prev.any isWordChar && !next.any isWordChar
  | wordStartHalf _ => !prev.any isWordChar
  | wordEndHalf _ => !next.any isWordChar

end Look

/-- A regular expression. -/
inductive Expr where
  /-- Nothing. -/
  | empty
  /-- These characters. -/
  | literal (chars : List Char)
  /-- One character of a set. -/
  | set (set : CharSet)
  | look (look : Look)
  /-- A numbered group. -/
  | group (index : Nat) (body : Expr)
  /-- One after the other. -/
  | seq (first rest : Expr)
  /-- The first if possible, else the others. -/
  | choice (first rest : Expr)
  /-- At least `min` and at most `max` times, as often or as rarely as possible. -/
  | repeated (min : Nat) (max : Option Nat) (greedy : Bool) (body : Expr)
  deriving DecidableEq, Repr

namespace Expr

/-- Whether every match has a character. -/
def consumes : Expr → Bool
  | empty | look _ => false
  | literal chars => !chars.isEmpty
  | set s => !s.isEmpty
  | group _ e => e.consumes
  | seq a b => a.consumes || b.consumes
  | choice a b => a.consumes && b.consumes
  | repeated min _ _ e => min ≠ 0 && e.consumes

/-- Whether no match has a character. -/
def isEmptyOnly : Expr → Bool
  | empty | look _ => true
  | literal chars => chars.isEmpty
  | set _ => false
  | group _ e => e.isEmptyOnly
  | seq a b => a.isEmptyOnly && b.isEmptyOnly
  | choice a b => a.isEmptyOnly && b.isEmptyOnly
  | repeated _ _ _ e => e.isEmptyOnly

/-- Whether an assertion about words of any letters occurs. -/
def hasUnicodeWord : Expr → Bool
  | empty | literal _ | set _ => false
  | look l => l.isUnicodeWord
  | group _ e => e.hasUnicodeWord
  | seq a b => a.hasUnicodeWord || b.hasUnicodeWord
  | choice a b => a.hasUnicodeWord || b.hasUnicodeWord
  | repeated _ _ _ e => e.hasUnicodeWord

/-- Number of constructors. -/
def size : Expr → Nat
  | empty | literal _ | set _ | look _ => 1
  | group _ e => e.size + 1
  | seq a b => a.size + b.size + 1
  | choice a b => a.size + b.size + 1
  | repeated _ _ _ e => e.size + 1

/-- Members of a sequence. -/
def items : Expr → List Expr
  | seq a b => a :: b.items
  | e => [e]

/-- Members of a choice. -/
def branches : Expr → List Expr
  | choice a b => a :: b.branches
  | e => [e]

/-! ## Simplified forms -/

/-- A set, as a literal if it has just one character. -/
def ofSet (s : CharSet) : Expr :=
  match s.ranges with
  | [(a, b)] => if a = b then literal [Char.ofNat a] else set s
  | _ => set s

/-- Puts a member before others: nothing disappears, literals join. -/
def prepend (e : Expr) (rest : List Expr) : List Expr :=
  match e, rest with
  | empty, _ => rest
  | literal cs, literal ds :: rest => literal (cs ++ ds) :: rest
  | e, rest => e :: rest

/-- The sequence of members that are already simplified. -/
def ofItems : List Expr → Expr
  | [] => empty
  | [e] => e
  | e :: rest => seq e (ofItems rest)

/-- One expression after the other. -/
def sequence (es : List Expr) : Expr := ofItems ((es.flatMap items).foldr prepend [])

/-- The characters of which an expression matches exactly one, if it is that simple. -/
def asSet? : Expr → Option CharSet
  | literal [c] => some (CharSet.singleton c)
  | set s => some s
  | _ => none

/-- The choice between branches that are already simplified. -/
def ofBranches : List Expr → Expr
  | [] => set CharSet.empty
  | [e] => e
  | e :: rest => choice e (ofBranches rest)

/-- What two lists begin with. -/
def commonStart : List Expr → List Expr → List Expr
  | a :: as, b :: bs => if a = b then a :: commonStart as bs else []
  | _, _ => []

/-- What all branches begin with, if they all are sequences. -/
def commonStart? : List Expr → Option (List Expr)
  | [] => none
  | [seq a b] => some (seq a b).items
  | seq a b :: rest => (commonStart? rest).map (commonStart (seq a b).items)
  | _ => none

/-- An ordered choice. `fuel` bounds how often a common start is set apart; the
branches get smaller each time. -/
def choiceWithin (fuel : Nat) (es : List Expr) : Expr :=
  let bs := es.flatMap branches
  match bs with
  | [] => ofBranches []
  | [e] => e
  | _ =>
    match bs.mapM asSet? with
    | some sets => ofSet (sets.foldl CharSet.union CharSet.empty)
    | none =>
      match fuel, commonStart? bs with
      | fuel + 1, some (p :: ps) =>
        let start := p :: ps
        sequence (start ++
          [choiceWithin fuel (bs.map fun b => sequence (b.items.drop start.length))])
      | _, _ => ofBranches bs

/-- The ordered choice between expressions. -/
def alternatives (es : List Expr) : Expr := choiceWithin (ofBranches es).size es

/-- A repetition. What matches only the empty text need not be repeated. -/
def times (min : Nat) (max : Option Nat) (greedy : Bool) (e : Expr) : Expr :=
  let (min, max) :=
    if e.isEmptyOnly then (Nat.min min 1, some (max.elim 1 (Nat.min · 1))) else (min, max)
  if min = 0 ∧ max = some 0 then empty
  else if min = 1 ∧ max = some 1 then e
  else repeated min max greedy e

end Expr
end GrammarKit.Pattern
