import GrammarKit.Assoc
import GrammarKit.Fault
import GrammarKit.Kind

/-!
# Ranks

Rules that produce one kind are grouped by rank, as operators are by
precedence. A kind at a rank is a ranked type; the index numbers ranked types
in the order of their registration and lists the rules of each.
-/
namespace GrammarKit

/-- Number of a rule. -/
abbrev RuleId := Nat

/-- A kind at a rank. -/
structure RankedType where
  kind : Kind
  rank : Nat
  deriving DecidableEq, Repr

/-- Highest rank by kind, and rules by ranked type; both in the order in which
they were registered. -/
structure RankIndex where
  maxRanks : Assoc Kind Nat
  entries : Assoc RankedType (List RuleId)
  deriving DecidableEq, Repr

namespace RankIndex

def empty : RankIndex := ⟨[], []⟩

variable (x : RankIndex)

/-- Number of a ranked type. -/
def id? (r : RankedType) : Option Nat := x.entries.index? r

/-- The ranked type with a number. -/
def type? (id : Nat) : Option RankedType := (x.entries[id]?).map (·.1)

/-- Rules of exactly this ranked type. -/
def rulesAt (r : RankedType) : List RuleId := (x.entries.get? r).getD []

/-- Highest rank at which rules produce a kind. -/
def maxRank? (k : Kind) : Option Nat := x.maxRanks.get? k

/-- The index with more rules of a ranked type, which is registered if it is new. -/
def add (r : RankedType) (rules : List RuleId) : RankIndex where
  maxRanks := x.maxRanks.alter (fun top => (top.getD r.rank).max r.rank) r.kind
  entries := x.entries.alter (fun known => known.getD [] ++ rules) r

/-- The index with a ranked type registered. -/
def register (r : RankedType) : RankIndex := x.add r []

/-- Binds a rule to a registered ranked type. -/
def pushRule (id : Nat) (rule : RuleId) : Except Fault RankIndex :=
  match x.entries[id]? with
  | some (r, rules) => .ok { x with entries := x.entries.set id (r, rules ++ [rule]) }
  | none => .error (.unregisteredType id)

/-- The ranked types of a kind up to a rank, with their rules, lowest rank
first. -/
def entriesUpTo (k : Kind) (cap : Nat) : Assoc RankedType (List RuleId) :=
  (x.entries.filter fun e => e.1.kind = k && e.1.rank ≤ cap).mergeSort
    (fun a b => a.1.rank ≤ b.1.rank)

/-- Rules that produce a kind at ranks up to a cap, lowest rank first. There is
no answer for a kind no rule produces. -/
def rulesOfKind? (k : Kind) (cap : Option Nat) : Option (List RuleId) :=
  (x.maxRank? k).map fun top =>
    (x.entriesUpTo k (cap.elim top (·.min top))).flatMap (·.2)

/-- Kinds that some rule produces. -/
def kinds : List Kind := x.maxRanks.map (·.1)

/-- Number of ranked types. -/
def size : Nat := x.entries.length

end RankIndex
end GrammarKit
