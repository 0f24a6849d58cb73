import GrammarKit.Compile.Grammar
import GrammarKit.Grammar.Blob
import GrammarKit.Lexing.Layout

/-!
# Languages

A language is a grammar with the lexer of its tokens. It is made of a
declaration or of the blob of a grammar; a blob holds no options, so these are
given again.
-/
namespace GrammarKit

/-- Why there is no language. -/
inductive LanguageError where
  | compile (error : CompileError)
  | lexer (error : LexerError)
  | grammar (error : GrammarError)
  deriving DecidableEq, Repr

def LanguageError.message : LanguageError → String
  | .compile e => e.message
  | .lexer e => e.message
  | .grammar e => e.message

/-- A grammar and its lexer. -/
structure Language where
  grammar : Grammar
  lexer : Lexer

namespace Language

/-- The language of a grammar. -/
def ofGrammar (g : Grammar) (options : LexerOptions) : Except (Failure LanguageError) Language :=
  match Lexer.ofTable g.tokens options with
  | .ok lexer => .ok ⟨g, lexer⟩
  | .error (.error e) => .error (.error (.lexer e))
  | .error (.fault f) => .error (.fault f)

/-- The language of a declaration. -/
def ofDeclaration (tokens : TokenTable) (d : Declaration) (start : String)
    (compiling : Compile.Options) (lexing : LexerOptions) :
    Except (Failure LanguageError) Language :=
  match (Compile.compile compiling tokens d start).outcome with
  | .ok g => ofGrammar g lexing
  | .error e => .error (.error (.compile e))

/-- The language of the blob of a grammar. -/
def ofBlob (bytes : List UInt8) (options : LexerOptions) :
    Except (Failure LanguageError) Language :=
  match Grammar.ofBlob bytes with
  | .ok g => ofGrammar g options
  | .error e => .error (.error (.grammar e))

/-- The grammar as a blob. -/
def toBlob (l : Language) : List UInt8 := l.grammar.toBlob

/-- Lexes a text. -/
def lex (l : Language) (text : Text) : Lexed := l.lexer.lex text

end Language
end GrammarKit
