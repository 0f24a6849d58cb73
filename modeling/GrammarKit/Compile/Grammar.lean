import GrammarKit.Compile.VariantRules
import GrammarKit.Compile.TokenSets
import GrammarKit.Grammar

/-!
# Compiling a declaration

`compile` turns a token table and a declared grammar into a grammar, or says
what is wrong: all variants get their ids, become rules, and make the rules
their lists need; then every rule learns which tokens it starts with and which
can follow it. The rules of the start kind are the ones a parse begins with.
-/
namespace GrammarKit.Compile

/-- Limits of compilation. -/
structure Options where
  /-- Most optional parameters that a rule may have. -/
  maxOptionals : Nat
  deriving DecidableEq, Repr

def Options.default : Options := ⟨16⟩

/-- The rules with their starting and ending tokens. -/
def withTokenSets (first : RuleId) (endOfStream : TokenId) (rules : List Rule) :
    Journaled (List Rule) := do
  let known := nullable first rules
  let (starting, updates) := startingSets known first rules
  Journaled.tell [.settled "starting" updates]
  let (ending, updates) := endingSets known first endOfStream starting rules
  Journaled.tell [.settled "ending" updates]
  pure (rules.zipIdx.map fun (r, i) =>
    { r with starting := starting.getD i [], ending := ending.getD i [] })

/-- The grammar of a declaration, whose parses produce the kind `start`. -/
def compile (options : Options) (tokens : TokenTable) (d : Declaration) (start : String) :
    Journaled Grammar := do
  let endOfStream ← Journaled.require .missingEndOfStream (tokens.role? .endOfStream)
  let startKind ← Journaled.require (.unknownStartKind start) (d.kinds.get? start)
  let first := tokens.size
  let numbering ← numberAll d first options.maxOptionals
  let substitutes := tokens.substitutes
  let cx : Context := ⟨tokens, substitutes, d.kinds, numbering.ranks⟩
  let (declared, lists) ← cx.rules d.rules first
    (.startingAt (first + numbering.variants.length)) numbering.variants
  Journaled.tell (lists.rules.map .rule)
  let initial ← Journaled.require (.unknownStartKind start)
    (numbering.ranks.rulesOfKind? startKind none)
  let rules ← withTokenSets first endOfStream (declared ++ lists.rules)
  pure ⟨tokens, d.kinds, startKind, endOfStream, numbering.ranks, rules, substitutes, initial⟩

end GrammarKit.Compile
