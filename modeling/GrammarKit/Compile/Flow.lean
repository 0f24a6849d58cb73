import GrammarKit.TokenSet

/-!
# Token sets that flow along edges

`spread` lets every token of a set flow to the sets its edges lead to, until
nothing moves. Places wait in a queue: all at first, and again whenever their
set has grown. The number of times that a set grew is reported.
-/
namespace GrammarKit.Compile

/-- First come, first served. -/
structure Queue where
  front : List Nat
  /-- The later ones, last first. -/
  back : List Nat
  deriving DecidableEq, Repr

namespace Queue

/-- Everything in the queue, the first in front. -/
def toList (q : Queue) : List Nat := q.front ++ q.back.reverse

def push (q : Queue) (i : Nat) : Queue := { q with back := i :: q.back }

/-- The first in the queue and the others. -/
def pop? (q : Queue) : Option (Nat × Queue) :=
  match q.front with
  | i :: front => some (i, { q with front })
  | [] =>
    match q.back.reverse with
    | i :: front => some (i, ⟨front, []⟩)
    | [] => none

@[simp] theorem toList_push (q : Queue) (i : Nat) : (q.push i).toList = q.toList ++ [i] := by
  simp [toList, push]

/-- Taking one off the queue takes off the head of its list. -/
theorem toList_eq_of_pop? {q rest : Queue} {i : Nat} (h : q.pop? = some (i, rest)) :
    q.toList = i :: rest.toList := by
  unfold pop? at h
  split at h
  case h_1 => grind [toList]
  case h_2 => split at h <;> grind [toList]

theorem pop?_eq_none_iff {q : Queue} : q.pop? = none ↔ q.toList = [] := by
  unfold pop? toList
  split
  case h_1 => simp_all
  case h_2 => split <;> simp_all

end Queue

/-- The sets, the places that wait, and how often a set grew. -/
structure Flow where
  sets : Array TokenSet
  waiting : Array Bool
  queue : Queue
  updates : Nat

namespace Flow

/-- All places wait. -/
def start (sets : Array TokenSet) : Flow :=
  ⟨sets, Array.replicate sets.size true, ⟨List.range sets.size, []⟩, 0⟩

/-- The set at a place. -/
def set (f : Flow) (i : Nat) : TokenSet := f.sets.getD i []

/-- Lets the tokens of one place flow to another. -/
def along (source : Nat) (f : Flow) (target : Nat) : Flow :=
  if target = source then f
  else if (TokenSet.diff (f.set source) (f.set target)).isEmpty then f
  else
    let f := { f with
      sets := f.sets.setIfInBounds target (TokenSet.union (f.set source) (f.set target))
      updates := f.updates + 1 }
    if f.waiting.getD target true then f
    else { f with waiting := f.waiting.setIfInBounds target true, queue := f.queue.push target }

/-- Lets the tokens of one place flow along its edges. -/
def visit (edges : Array (List Nat)) (f : Flow) (source : Nat) : Flow :=
  (edges.getD source []).foldl (along source)
    { f with waiting := f.waiting.setIfInBounds source false }

/-- Serves the queue, at most `fuel` times. -/
def settle (edges : Array (List Nat)) : Nat → Flow → Flow
  | 0, f => f
  | fuel + 1, f =>
    match f.queue.pop? with
    | none => f
    | some (i, queue) => settle edges fuel (visit edges { f with queue } i)

end Flow

/-- How often places can be served: each once at first, and again only when one
of the tokens around came to its set. -/
def flowBound (sets : Array TokenSet) : Nat :=
  sets.size + sets.size * (TokenSet.ofList sets.toList.flatten).length

/-- The sets after everything has flowed along the edges, and how often one
grew. -/
def spread (sets : Array TokenSet) (edges : Array (List Nat)) : Array TokenSet × Nat :=
  let f := Flow.settle edges (flowBound sets) (Flow.start sets)
  (f.sets, f.updates)

end GrammarKit.Compile
