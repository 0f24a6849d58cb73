import GrammarKit.Lexing.Matcher
import GrammarKit.Token.Table

/-!
# Lexers

A lexer is a token table made ready to run: matchers of all tokens, the tokens
to try at each place, and which tokens refine which.

At a place the candidate with the longest match wins, the first declared one
among equals; then its children may take the lexeme over, and theirs in turn, as
long as one matches all of it.
-/
namespace GrammarKit

/-- How to lex. -/
structure LexerOptions where
  /-- Columns that a tab counts for in indentation. -/
  tabWidth : Nat
  /-- Whether a backslash before a newline joins two lines. -/
  escapeNewlines : Bool
  /-- Regular expression of comments, which are skipped. -/
  comments : Option String
  deriving DecidableEq, Repr

def LexerOptions.default : LexerOptions := ⟨4, false, none⟩

/-- A token with its matcher. -/
abbrev Candidate := TokenId × Matcher

/-- A lexer. -/
structure Lexer where
  /-- Matchers by token. -/
  matchers : List (Option Matcher)
  /-- Tokens to try at a place, in the order of declaration. -/
  roots : List Candidate
  /-- Tokens that refine each token, in the order of declaration. -/
  children : Array (List Candidate)
  endOfStream : TokenId
  error : TokenId
  endOfLine : Option TokenId
  /-- Tokens for indents and dedents, if there are both. -/
  indentation : Option (TokenId × TokenId)
  comments : Option Pattern
  options : LexerOptions

namespace Lexer

/-! ## Building -/

/-- The token of a role that every lexer needs. -/
def needRole (t : TokenTable) (role : Role) : Except (Failure LexerError) TokenId :=
  match t.role? role with
  | some id => .ok id
  | none => .error (.error (.missingRole role))

/-- The pattern of comments. -/
def commentPattern (options : LexerOptions) : Except (Failure LexerError) (Option Pattern) :=
  match options.comments with
  | none => .ok none
  | some source =>
    match Pattern.compile? source true none with
    | some p => .ok (some p)
    | none => .error (.error (.commentPattern source Pattern.refusal))

/-- The tokens among some entries that have a matcher. -/
def candidatesAmong (matchers : List (Option Matcher)) (ids : List TokenId) : List Candidate :=
  ids.filterMap fun id => (matchers[id]?.join).map fun m => (id, m)

/-- Whether some token has a parent that the table does not have. -/
def hasStrayParent (t : TokenTable) : Bool :=
  t.tokens.any fun d => d.parent.any fun link => link.id ≥ t.size

/-- The lexer of a token table. -/
def ofTable (t : TokenTable) (options : LexerOptions) : Except (Failure LexerError) Lexer := do
  let endOfStream ← needRole t .endOfStream
  let error ← needRole t .error
  if options.tabWidth = 0 then throw (.error .zeroTabWidth)
  let matchers ← t.tokens.mapM Matcher.compile
  if hasStrayParent t then throw (.fault .outOfRange)
  let comments ← commentPattern options
  pure {
    matchers
    roots := candidatesAmong matchers t.roots
    children := ((List.range t.size).map fun id =>
      candidatesAmong matchers ((t.children id).map (·.1))).toArray
    endOfStream
    error
    endOfLine := t.role? .endOfLine
    indentation := (t.role? .indent).bind fun indent =>
      (t.role? .dedent).map fun dedent => (indent, dedent)
    comments
    options }

variable (lx : Lexer)

/-- The matcher of a token, if it has one. -/
def matcher? (token : TokenId) : Option Matcher := lx.matchers[token]?.join

/-! ## What stands at a place -/

/-- Characters of the comment at the front of a text; zero if there is none. -/
def commentChars (prev : Option Char) (rest : Text) : Nat :=
  lx.comments.elim 0 (·.matchChars prev rest)

/-- The best candidate so far: its token, and the characters and bytes it
matches. -/
structure Best where
  token : TokenId
  chars : Nat
  bytes : Nat
  deriving DecidableEq, Repr

/-- The better one of the best candidate so far and another one. A candidate
that cannot match more, or not begin with the character `c` at the front, is not
tried. -/
def better (prev : Option Char) (c : Char) (rest : Text) (best : Option Best) (cand : Candidate) :
    Option Best :=
  let bytes := best.elim 0 Best.bytes
  if cand.2.maxLen?.any (· ≤ bytes) || !cand.2.startsWith c then best
  else
    let n := cand.2.matchChars prev rest
    let b := Text.bytes (rest.take n)
    if b > bytes then some ⟨cand.1, n, b⟩ else best

/-- The best candidate at the front of a text. -/
def best (prev : Option Char) (rest : Text) : Option Best :=
  match rest with
  | [] => none
  | c :: _ => lx.roots.foldl (better prev c rest) none

/-- Whether a candidate matches all of a lexeme. -/
def matchesAll (lexeme : Text) (cand : Candidate) : Bool :=
  cand.2.matchBytes none lexeme = Text.bytes lexeme

/-- The deepest descendant of a token that takes over a lexeme. Descents are at
most as deep as there are tokens. -/
def refineWithin : (fuel : Nat) → TokenId → Text → TokenId
  | 0, t, _ => t
  | fuel + 1, t, lexeme =>
    match (lx.children.getD t []).find? (matchesAll lexeme) with
    | some cand => refineWithin fuel cand.1 lexeme
    | none => t

/-- The token that a lexeme of `t` is in the end. -/
def refine (t : TokenId) (lexeme : Text) : TokenId := lx.refineWithin lx.matchers.length t lexeme

end Lexer
end GrammarKit
