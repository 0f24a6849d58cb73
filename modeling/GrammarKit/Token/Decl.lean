/-!
# Declaring tokens

A token has a name, possibly a recognizer that finds it in a text, possibly a
parent token whose lexemes it refines, and possibly a role that the lexer fills
by itself. Tokens are numbered from zero in the order of their declaration.

`TokenDecl.named` starts a declaration; the functions after it add to one.
-/
namespace GrammarKit

/-- Number of a token. -/
abbrev TokenId := Nat

/-- How a token is found in a text. -/
inductive Recognizer where
  /-- One of these strings; the longest wins. -/
  | literals (options : List String)
  /-- A regular expression. `start` holds the characters a match may begin
  with, if they are restricted. -/
  | pattern (pattern : String) (start : Option String)
  /-- The token's own name, in any case. -/
  | ownName
  deriving DecidableEq, Repr

/-- Whether a child may stand where its parent is expected. -/
inductive Visibility where
  | substitutable
  | hidden
  deriving DecidableEq, Repr

/-- A child's link to its parent. -/
structure ParentLink where
  id : TokenId
  visibility : Visibility
  deriving DecidableEq, Repr

/-- What the lexer itself uses a token for. -/
inductive Role where
  | endOfStream
  | error
  | indent
  | dedent
  | endOfLine
  deriving DecidableEq, Repr

/-- The role as error messages name it. -/
def Role.name : Role → String
  | .endOfStream => "end-of-stream"
  | .error => "error"
  | .indent => "indent"
  | .dedent => "dedent"
  | .endOfLine => "end-of-line"

/-- One declared token. -/
structure TokenDecl where
  name : String
  recognizer : Option Recognizer
  caseSensitive : Bool
  parent : Option ParentLink
  role : Option Role
  deriving DecidableEq, Repr

namespace TokenDecl

/-- A token that has only a name. -/
def named (name : String) : TokenDecl := ⟨name, none, true, none, none⟩

/-- Found as any of the strings. -/
def withLiterals (d : TokenDecl) (options : List String) : TokenDecl :=
  { d with recognizer := some (.literals options) }

/-- Found by a regular expression. -/
def withPattern (d : TokenDecl) (pattern : String) : TokenDecl :=
  { d with recognizer := some (.pattern pattern none) }

/-- Restricts the characters that a match of the pattern begins with. Literals
know their own first characters, so nothing else is restricted. -/
def startingWith (d : TokenDecl) (chars : String) : TokenDecl :=
  match d.recognizer with
  | some (.pattern pattern _) => { d with recognizer := some (.pattern pattern (some chars)) }
  | _ => d

/-- Found as its own name. -/
def withOwnName (d : TokenDecl) : TokenDecl := { d with recognizer := some .ownName }

/-- Found in any case. -/
def ignoringCase (d : TokenDecl) : TokenDecl := { d with caseSensitive := false }

/-- Refines the lexemes of `parent`, under the given visibility. -/
def childOf (d : TokenDecl) (parent : TokenId) (visibility : Visibility) : TokenDecl :=
  { d with parent := some ⟨parent, visibility⟩ }

/-- Plays a role. -/
def playing (d : TokenDecl) (role : Role) : TokenDecl := { d with role := some role }

/-- The recognizer, with `ownName` spelled out. -/
def spelledRecognizer (d : TokenDecl) : Option Recognizer :=
  match d.recognizer with
  | some .ownName => some (.literals [d.name])
  | r => r

/-- Whether the recognizer tells upper from lower case; an own name never does. -/
def tellsCase (d : TokenDecl) : Bool :=
  match d.recognizer with
  | some .ownName => false
  | _ => d.caseSensitive

end TokenDecl
end GrammarKit
