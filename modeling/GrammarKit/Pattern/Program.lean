import GrammarKit.Pattern.Expr

/-!
# Matching by threads

An expression becomes a program of nodes. A thread stands at a node; threads
are ordered by preference, and each character of the text moves all of them.
`Program.search` returns the length, in characters, of the match that the most
preferred thread finds from the front of a text.

The list of threads at a place holds no two threads at one node: the more
preferred one stays. Assertions wait for the next character. When it is known
and an assertion that was still open holds, the list is completed once more
from its own threads.

A program with assertions about words of any letters gives up at a character
beyond ASCII. It reads on as long as a thread is left or the last character has
just confirmed a match.
-/
namespace GrammarKit.Pattern

open Text (CharSet)

/-- What a thread does. -/
inductive Node where
  /-- Reads a character of a set and goes on. -/
  | read (set : CharSet) (next : Nat)
  /-- Goes on if an assertion holds. -/
  | look (look : Look) (next : Nat)
  /-- Splits into threads, the most preferred first. -/
  | split (targets : List Nat)
  /-- Has found a match. -/
  | accept
  deriving DecidableEq, Repr

/-- A program: its nodes, where it starts, and whether it gives up beyond ASCII. -/
structure Program where
  nodes : Array Node
  start : Nat
  asciiOnly : Bool

/-! ## From expressions to nodes -/

/-- Nodes under construction. -/
abbrev Nodes := Array Node

/-- Adds the nodes of something that goes on at a given node; the result is
where it starts. -/
abbrev Fragment := Nat → Nodes → Nat × Nodes

namespace Fragment

/-- Adds one node. -/
def node (n : Nat → Node) : Fragment := fun next ns => (ns.size, ns.push (n next))

/-- The fragment `n` times in a row. -/
def power (f : Fragment) : Nat → Fragment
  | 0 => fun next ns => (next, ns)
  | n + 1 => fun next ns =>
    let (start, ns) := f next ns
    f.power n start ns

/-- A split between going on inside and leaving. -/
def fork (greedy : Bool) (inside next : Nat) : Node :=
  .split (if greedy then [inside, next] else [next, inside])

/-- The fragment up to `n` times, and out after any of them. -/
def atMost (f : Fragment) (greedy : Bool) (n : Nat) : Fragment := fun next ns =>
  go next next ns n
where
  go (next after : Nat) (ns : Nodes) : Nat → Nat × Nodes
    | 0 => (after, ns)
    | n + 1 =>
      let (inside, ns) := f after ns
      go next ns.size (ns.push (fork greedy inside next)) n

/-- The fragment in a loop whose fork comes after it. The results are the start
of the fragment and the fork. -/
def loop (f : Fragment) (greedy : Bool) (next : Nat) (ns : Nodes) : (Nat × Nat) × Nodes :=
  let back := ns.size
  let (inside, ns) := f back (ns.push .accept)
  ((inside, back), ns.setIfInBounds back (fork greedy inside next))

/-- The fragment any number of times. A fragment that may read nothing needs a
fork of its own before the loop, or an empty round would come before a full one. -/
def star (f : Fragment) (consumes greedy : Bool) : Fragment := fun next ns =>
  let ((inside, back), ns) := f.loop greedy next ns
  if consumes then (back, ns) else (ns.size, ns.push (fork greedy inside next))

/-- The fragment at least once. -/
def plus (f : Fragment) (greedy : Bool) : Fragment := fun next ns =>
  let ((inside, _), ns) := f.loop greedy next ns
  (inside, ns)

end Fragment

/-- The nodes of literal characters. -/
def literalFragment : List Char → Fragment
  | [] => fun next ns => (next, ns)
  | c :: cs => fun next ns =>
    let (start, ns) := literalFragment cs next ns
    Fragment.node (.read (CharSet.singleton c)) start ns

/-- The nodes of an expression. -/
def Expr.fragment : Expr → Fragment
  | empty => fun next ns => (next, ns)
  | literal cs => literalFragment cs
  | set s => Fragment.node (.read s)
  | look l => Fragment.node (.look l)
  | group _ e => e.fragment
  | seq a b => fun next ns =>
    let (start, ns) := b.fragment next ns
    a.fragment start ns
  | choice a b => fun next ns =>
    let (second, ns) := b.fragment next ns
    let (first, ns) := a.fragment next ns
    (ns.size, ns.push (.split [first, second]))
  | repeated min max greedy e => fun next ns =>
    match max with
    | some max =>
      let (start, ns) := e.fragment.atMost greedy (max - min) next ns
      e.fragment.power min start ns
    | none =>
      if min = 0 then e.fragment.star e.consumes greedy next ns
      else
        let (start, ns) := e.fragment.plus greedy next ns
        e.fragment.power (min - 1) start ns

/-- The program of an expression. -/
def Expr.program (e : Expr) : Program :=
  let (start, nodes) := e.fragment 0 #[.accept]
  ⟨nodes, start, e.hasUnicodeWord⟩

/-! ## Running -/

/-- Nodes visited, as bits, and the threads among them, least preferred first. -/
structure Threads where
  visited : Nat
  last : List Nat

namespace Program

variable (p : Program)

/-- Adds a thread at a node and the threads it turns into, where `holds` says
which assertions are known to hold. No path visits a node twice, so `fuel` may
be the number of nodes. -/
def follow (holds : Look → Bool) : (fuel : Nat) → Threads → Nat → Threads
  | 0, t, _ => t
  | fuel + 1, t, i =>
    if t.visited.testBit i then t
    else
      let t := { t with visited := t.visited ||| 1 <<< i }
      match p.nodes[i]? with
      | none => t
      | some (.split targets) => targets.foldl (follow holds fuel) t
      | some (.look l next) =>
        let t := { t with last := i :: t.last }
        if holds l then follow holds fuel t next else t
      | some (.read s _) => if s.isEmpty then t else { t with last := i :: t.last }
      | some .accept => { t with last := i :: t.last }

/-- The threads that these nodes turn into, most preferred first. -/
def threads (holds : Look → Bool) (nodes : List Nat) : List Nat :=
  (nodes.foldl (p.follow holds p.nodes.size) ⟨0, []⟩).last.reverse

/-- Whether a thread waits for an assertion that the next character has decided
in its favour. -/
def isOpen (prev next : Option Char) (i : Nat) : Bool :=
  match p.nodes[i]? with
  | some (.look l _) => l.holds prev next && !l.holdsBehind prev
  | _ => false

/-- The threads once the next character is known. -/
def resolve (prev next : Option Char) (ts : List Nat) : List Nat :=
  if ts.any (p.isOpen prev next) then p.threads (Look.holds prev next) ts else ts

/-- Where the threads go that read a character, down to the first one that has
found a match. -/
def reading (c : Char) : List Nat → List Nat
  | [] => []
  | i :: rest =>
    match p.nodes[i]? with
    | some .accept => []
    | some (.read s next) => if s.contains c then next :: reading c rest else reading c rest
    | _ => reading c rest

/-- Whether one of the threads has found a match. -/
def accepts (ts : List Nat) : Bool := ts.any fun i => p.nodes[i]? == some .accept

/-- Moves the threads over the rest of a text, of which `count` characters are
read and `best` match. -/
def run (prev : Option Char) (ts : List Nat) (count best : Nat) : List Char → Nat
  | [] => if p.accepts (p.resolve prev none ts) then count else best
  | c :: rest =>
    if p.asciiOnly && c.toNat ≥ 0x80 then 0
    else
      let ts := p.resolve prev (some c) ts
      let found := p.accepts ts
      let best := if found then count else best
      let ts := p.threads (Look.holdsBehind (some c)) (p.reading c ts)
      if ts.isEmpty && !found then best else run (some c) ts (count + 1) best rest

/-- Characters of the preferred match at the front of a text, after the
character `prev`; zero if there is none. -/
def search (prev : Option Char) (text : List Char) : Nat :=
  if p.asciiOnly && prev.any (·.toNat ≥ 0x80) then 0
  else p.run prev (p.threads (Look.holdsBehind prev) [p.start]) 0 0 text

end Program
end GrammarKit.Pattern
