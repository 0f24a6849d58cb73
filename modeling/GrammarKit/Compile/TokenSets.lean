import GrammarKit.Compile.Nullable
import GrammarKit.Compile.Flow

/-!
# Starting and ending tokens

A rule starts with the tokens of its first step or, as long as steps can match
nothing, of the steps after it; a choice between rules starts as the rules do.
A rule ends before whatever starts the steps after it in another rule and, if
these can all match nothing, where that other rule ends. Every rule can end
before the end of the stream.

Both are seeds that `spread` carries along edges from place to place.
-/
namespace GrammarKit.Compile

/-- Seeds of the sets and, for each place, the places that its set flows to. -/
structure Seeds where
  sets : Array TokenSet
  /-- Targets of each place, last first. -/
  edges : Array (List Nat)

namespace Seeds

/-- Sets that hold the same tokens, and no edges. -/
def initial (count : Nat) (tokens : TokenSet) : Seeds :=
  ⟨Array.replicate count tokens, Array.replicate count []⟩

/-- Adds tokens to the set at a place. -/
def grow (s : Seeds) (i : Nat) (tokens : List TokenId) : Seeds :=
  { s with sets := s.sets.modify i (TokenSet.insertAll · tokens) }

/-- Adds an edge. -/
def link (s : Seeds) (source target : Nat) : Seeds :=
  { s with edges := s.edges.modify source (target :: ·) }

/-- Lets everything flow. -/
def settle (s : Seeds) : Array TokenSet × Nat := spread s.sets (s.edges.map List.reverse)

end Seeds

/-- The seeds that the steps of the rule at place `index` give to its starting
set. -/
def startingSeeds (known : Array Bool) (first : RuleId) (index : Nat) (s : Seeds) :
    List Step → Seeds
  | [] => s
  | .terminal tokens :: _ => s.grow index tokens
  | .nonTerminal rules :: rest =>
    let s := rules.foldl (fun s r => s.link (r - first) index) s
    if mayBeEmpty known first (.nonTerminal rules) then startingSeeds known first index s rest
    else s

/-- The starting tokens of every rule, and how often a set grew. -/
def startingSets (known : Array Bool) (first : RuleId) (rules : List Rule) :
    Array TokenSet × Nat :=
  (rules.zipIdx.foldl (fun s (r, index) => startingSeeds known first index s r.steps)
    (Seeds.initial rules.length [])).settle

/-- Tokens that can start these steps, and whether the steps can all match
nothing. -/
def startOf (known : Array Bool) (first : RuleId) (starting : Array TokenSet) :
    List Step → TokenSet × Bool
  | [] => ([], true)
  | .terminal tokens :: _ => (TokenSet.ofList tokens, false)
  | .nonTerminal rules :: rest =>
    let here := rules.foldl (fun s r => TokenSet.union (starting.getD (r - first) []) s) []
    if mayBeEmpty known first (.nonTerminal rules) then
      let (later, isOpen) := startOf known first starting rest
      (TokenSet.union here later, isOpen)
    else (here, false)

/-- The seeds that the steps of the rule at place `index` give to ending sets. -/
def endingSeeds (known : Array Bool) (first : RuleId) (starting : Array TokenSet) (index : Nat)
    (s : Seeds) : List Step → Seeds
  | [] => s
  | .terminal _ :: rest => endingSeeds known first starting index s rest
  | .nonTerminal rules :: rest =>
    let (follow, isOpen) := startOf known first starting rest
    let s := rules.foldl (fun s r =>
      let s := s.grow (r - first) follow
      if isOpen then s.link index (r - first) else s) s
    endingSeeds known first starting index s rest

/-- The ending tokens of every rule, and how often a set grew. -/
def endingSets (known : Array Bool) (first : RuleId) (endOfStream : TokenId)
    (starting : Array TokenSet) (rules : List Rule) : Array TokenSet × Nat :=
  (rules.zipIdx.foldl (fun s (r, index) => endingSeeds known first starting index s r.steps)
    (Seeds.initial rules.length [endOfStream])).settle

end GrammarKit.Compile
