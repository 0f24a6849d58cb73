import GrammarKit.Rule

/-!
# Rules that can match nothing

A rule matches the empty input if every step is a choice with an alternative
that does. `nullable` finds these rules by going over all rules until a round
finds no more.

Rules are addressed by their place, which is their id less the first rule id.
-/
namespace GrammarKit.Compile

/-- Whether one of the alternatives of a step is known to match nothing. -/
def mayBeEmpty (known : Array Bool) (first : RuleId) : Step → Bool
  | .terminal _ => false
  | .nonTerminal rules => rules.any fun r => known.getD (r - first) false

/-- One round over the rules from place `index` on, with what it found so far. -/
def nullableRound (first : RuleId) (known : Array Bool) (index : Nat) : List Rule → Array Bool
  | [] => known
  | r :: rest =>
    let known :=
      if r.steps.all (mayBeEmpty known first) then known.setIfInBounds index true else known
    nullableRound first known (index + 1) rest

/-- Rounds until nothing changes, at most `fuel`. Every round but the last finds
a rule, so as many rounds as there are rules are enough. -/
def nullableRounds (first : RuleId) (rules : List Rule) : Nat → Array Bool → Array Bool
  | 0, known => known
  | fuel + 1, known =>
    let next := nullableRound first known 0 rules
    if next = known then known else nullableRounds first rules fuel next

/-- Which rules match the empty input. -/
def nullable (first : RuleId) (rules : List Rule) : Array Bool :=
  nullableRounds first rules rules.length (Array.replicate rules.length false)

end GrammarKit.Compile
