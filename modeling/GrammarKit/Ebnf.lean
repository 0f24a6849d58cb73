import GrammarKit.Declaration
import GrammarKit.Text.Blank
import GrammarKit.Text.Casing
import GrammarKit.Token.Table

/-!
# Grammars in EBNF

A declared grammar as text, for documentation:

    'number' ::=
      | /[0-9]+/

    Expr ::=
      | Expr ('+' | '-') Expr
      | 'number'

Tokens found by a pattern or by several literals have a block of their own,
then come the kinds in the order of their first rules, with one line for each
rule. Blocks are kept by their heading: a token replaces the block with its
heading, a rule adds to it.
-/
namespace GrammarKit.Ebnf

/-- A text between quotes. -/
def quoted (s : String) : String := s!"'{s}'"

/-- How a token is written inside rules. -/
def tokenName (d : TokenDecl) : String :=
  match d.recognizer with
  | some (.literals [literal]) => quoted literal
  | _ => quoted (Text.Casing.lowerText d.name)

/-- The alternatives in the block of a token, if it has one. -/
def tokenAlternatives? (d : TokenDecl) : Option (List String) :=
  match d.recognizer with
  | some (.literals [_]) => none
  | some (.literals options) => some (options.map quoted)
  | some (.pattern pattern _) => some [s!"/{pattern}/"]
  | some .ownName | none => none

/-- A repetition. -/
def repeated (s : String) : String := "\x7b" ++ s ++ "\x7d"

/-- The name of a token, given the names of all. -/
def nameIn (names : List String) (t : TokenId) : String := (names[t]?).getD "?"

/-- A parameter inside a rule. -/
def param (kinds : KindTable) (names : List String) : Shape Kind → Except Fault String
  | .terminal tokens optional =>
    let joined := String.intercalate " | " (tokens.map (nameIn names))
    .ok (if optional then s!"[{joined}]" else if tokens.length = 1 then joined else s!"({joined})")
  | .nonTerminal kind _ optional => do
    let name ← require .outOfRange (kinds.name? kind)
    .ok (if optional then s!"[{name}]" else name)
  | .list element _ min delimiter => do
    let e ← require .outOfRange (kinds.name? element)
    let list := match delimiter with
      | some (.separator t) => s!"{e} " ++ repeated s!"{nameIn names t} {e}"
      | some (.terminator t) => s!"{e} {nameIn names t} " ++ repeated s!"{e} {nameIn names t}"
      | none => s!"{e} " ++ repeated e
    .ok (if min = 0 then s!"[{list}]" else list)

/-- The heading and the line of a rule. -/
def ruleLine (kinds : KindTable) (names : List String) (r : RuleDecl) :
    Except Fault (String × String) := do
  let parts ← r.params.mapM fun p => param kinds names p.shape
  let heading ← require .outOfRange (kinds.name? r.produces)
  .ok (heading, String.intercalate " " parts)

/-- The blocks of the tokens. -/
def tokenBlocks (tokens : List TokenDecl) : Assoc String (List String) :=
  tokens.foldl (fun blocks d =>
    match tokenAlternatives? d with
    | some alternatives => blocks.put (tokenName d) alternatives
    | none => blocks) []

/-- All blocks: those of the tokens, with the lines of the rules added. -/
def blocks (d : Declaration) (tokens : TokenTable) : Except Fault (Assoc String (List String)) := do
  let names := tokens.tokens.map tokenName
  let lines ← d.rules.mapM (ruleLine d.kinds names)
  .ok (lines.foldl (fun blocks line =>
    blocks.alter (fun known => known.getD [] ++ [line.2]) line.1) (tokenBlocks tokens.tokens))

/-- The text of a block. -/
def renderBlock (heading : String) (alternatives : List String) : String :=
  alternatives.foldl (fun text a => text ++ Text.trimEnd s!"  | {a}" ++ "\n") s!"{heading} ::=\n"
    ++ "\n"

/-- A declared grammar in EBNF. -/
def render (d : Declaration) (tokens : TokenTable) : Except Fault String := do
  let bs ← blocks d tokens
  .ok (String.join (bs.map fun b => renderBlock b.1 b.2))

end GrammarKit.Ebnf
