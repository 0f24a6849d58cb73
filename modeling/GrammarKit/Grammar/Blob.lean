import GrammarKit.Blob.Codec
import GrammarKit.Grammar

/-!
# Grammars as blobs

`Grammar.toBlob` writes a compiled grammar, `Grammar.ofBlob` reads one and
checks that it hangs together: rule ids are dense, steps name existing tokens
and rules, the end-of-stream token exists.
-/
namespace GrammarKit

namespace Codec

def visibility : Codec Visibility :=
  tagged (fun | .substitutable => 0 | .hidden => 1) (fun _ => []) fun
    | 0 => some (Reader.pure .substitutable)
    | 1 => some (Reader.pure .hidden)
    | _ => none

def role : Codec Role :=
  tagged
    (fun | .endOfStream => 0 | .error => 1 | .indent => 2 | .dedent => 3 | .endOfLine => 4)
    (fun _ => []) fun
    | 0 => some (Reader.pure .endOfStream)
    | 1 => some (Reader.pure .error)
    | 2 => some (Reader.pure .indent)
    | 3 => some (Reader.pure .dedent)
    | 4 => some (Reader.pure .endOfLine)
    | _ => none

def recognizer : Codec Recognizer :=
  tagged
    (fun | .literals _ => 0 | .pattern _ _ => 1 | .ownName => 2)
    (fun
      | .literals options => (list string).write options
      | .pattern pattern start => (pair string (option string)).write (pattern, start)
      | .ownName => []) fun
    | 0 => some ((list string).read.map .literals)
    | 1 => some ((pair string (option string)).read.map fun p => .pattern p.1 p.2)
    | 2 => some (Reader.pure .ownName)
    | _ => none

def parentLink : Codec ParentLink :=
  via (pair word visibility) (fun l => (l.id, l.visibility)) fun p => ⟨p.1, p.2⟩

def tokenDecl : Codec TokenDecl :=
  via (pair string (pair (option recognizer) (pair bool (pair (option parentLink) (option role)))))
    (fun d => (d.name, d.recognizer, d.caseSensitive, d.parent, d.role))
    fun (name, recognizer, caseSensitive, parent, role) =>
      ⟨name, recognizer, caseSensitive, parent, role⟩

def roles : Codec Roles :=
  let id := option word
  via (pair id (pair id (pair id (pair id id))))
    (fun r => (r.endOfStream, r.error, r.indent, r.dedent, r.endOfLine))
    fun (endOfStream, error, indent, dedent, endOfLine) =>
      ⟨endOfStream, error, indent, dedent, endOfLine⟩

def tokenTable : Codec TokenTable :=
  via (pair (list tokenDecl) roles) (fun t => (t.tokens, t.roles)) fun p => ⟨p.1, p.2⟩

def kindTable : Codec KindTable := via (list string) (·.names) (⟨·⟩)

def rankedType : Codec RankedType :=
  via (pair word word) (fun r => (r.kind, r.rank)) fun p => ⟨p.1, p.2⟩

/-- The entries of a map; a key that comes again gives its old place a new value. -/
def assoc {κ α : Type} [DecidableEq κ] (key : Codec κ) (value : Codec α) : Codec (Assoc κ α) :=
  via (list (pair key value)) id Assoc.ofEntries

def rankIndex : Codec RankIndex :=
  via (pair (assoc word word) (assoc rankedType (list word)))
    (fun x => (x.maxRanks, x.entries)) fun p => ⟨p.1, p.2⟩

def origin : Codec Origin :=
  tagged
    (fun | .declared _ _ => 0 | .listLast => 1 | .listMore => 2 | .listLeading => 3)
    (fun
      | .declared action decl => (pair string word).write (action, decl)
      | _ => []) fun
    | 0 => some ((pair string word).read.map fun p => .declared p.1 p.2)
    | 1 => some (Reader.pure .listLast)
    | 2 => some (Reader.pure .listMore)
    | 3 => some (Reader.pure .listLeading)
    | _ => none

def step : Codec Step :=
  via (pair (list word) bool) (fun s => (s.sources, s.isTerminal))
    fun p => if p.2 then .terminal p.1 else .nonTerminal p.1

/-- The members; they are put in order when read. -/
def tokenSet : Codec TokenSet := via (list word) id TokenSet.ofList

def rule : Codec Rule :=
  via (pair word (pair rankedType (pair origin (pair (list step) (pair (list bool)
      (pair tokenSet tokenSet))))))
    (fun r => (r.id, r.ranked, r.origin, r.steps, r.args, r.starting, r.ending))
    fun (id, ranked, origin, steps, args, starting, ending) =>
      ⟨id, ranked, origin, steps, args, starting, ending⟩

def grammar : Codec Grammar :=
  via (pair tokenTable (pair kindTable (pair word (pair word (pair rankIndex (pair (list rule)
      (pair (assoc word (list word)) (list word))))))))
    (fun g => (g.tokens, g.kinds, g.start, g.endOfStream, g.ranks, g.rules, g.substitutes,
      g.initial))
    fun (tokens, kinds, start, endOfStream, ranks, rules, substitutes, initial) =>
      ⟨tokens, kinds, start, endOfStream, ranks, rules, substitutes, initial⟩

end Codec

/-- Why a blob is no grammar. -/
inductive GrammarError where
  | decode (error : BlobError)
  | misnumberedRule (index : Nat) (id : RuleId)
  | danglingSource (rule : RuleId) (entity : Nat)
  | endOfStreamOutOfRange (token : TokenId)
  deriving DecidableEq, Repr

def GrammarError.message : GrammarError → String
  | .decode e => s!"binary decode error: {e.message}"
  | .misnumberedRule index id =>
    s!"grammar blob is inconsistent: rule at index {index} has id {id}"
  | .danglingSource rule entity =>
    s!"grammar blob is inconsistent: rule {rule} refers to unknown entity {entity}"
  | .endOfStreamOutOfRange token =>
    s!"grammar blob is inconsistent: end-of-stream token {token} is out of range"

namespace Grammar

/-- The complaint about the rules from `index` on, in a grammar with `first`
tokens and `entities` tokens and rules. -/
def ruleError? (first entities index : Nat) : List Rule → Option GrammarError
  | [] => none
  | r :: rest =>
    if r.id ≠ first + index then some (.misnumberedRule index r.id)
    else match (r.steps.flatMap Step.sources).find? (· ≥ entities) with
      | some e => some (.danglingSource r.id e)
      | none => ruleError? first entities (index + 1) rest

/-- What is wrong with a grammar, if anything. -/
def inconsistency? (g : Grammar) : Option GrammarError :=
  match ruleError? g.tokenCount g.entityCount 0 g.rules with
  | some e => some e
  | none => if g.tokens.contains g.endOfStream then none
    else some (.endOfStreamOutOfRange g.endOfStream)

/-- The grammar as bytes. -/
def toBlob (g : Grammar) : List UInt8 := Codec.grammar.write g

/-- The grammar that bytes spell; bytes after it do not matter. -/
def ofBlob (bytes : List UInt8) : Except GrammarError Grammar :=
  match Codec.grammar.read bytes with
  | .error e => .error (.decode e)
  | .ok (g, _) =>
    match g.inconsistency? with
    | some e => .error e
    | none => .ok g

end Grammar
end GrammarKit
