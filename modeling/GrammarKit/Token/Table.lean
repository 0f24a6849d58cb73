import GrammarKit.Assoc
import GrammarKit.Fault
import GrammarKit.Token.Decl

/-!
# Token tables

The tokens of a language, checked as a whole by `TokenTable.ofDecls`: parents
exist and form no cycle, literals are not empty, every role is played once and
by a token without recognizer.
-/
namespace GrammarKit

/-- Why a list of declarations is no token table. -/
inductive TokenError where
  | unknownParent (token : String) (parent : TokenId)
  | cyclicParent (token : String)
  | duplicateRole (role : Role) (first second : String)
  | roleWithRecognizer (token : String) (role : Role)
  | emptyLiterals (token : String)
  | emptyLiteral (token : String)
  deriving DecidableEq, Repr

def TokenError.message : TokenError → String
  | .unknownParent token parent => s!"token `{token}` declares unknown parent #{parent}"
  | .cyclicParent token => s!"token `{token}` is its own ancestor"
  | .duplicateRole role first second =>
    s!"{role.name} role is assigned to both `{first}` and `{second}`"
  | .roleWithRecognizer token role =>
    s!"token `{token}` plays the {role.name} role and cannot have a recognizer"
  | .emptyLiterals token => s!"token `{token}` declares no literal"
  | .emptyLiteral token => s!"token `{token}` declares an empty literal"

/-- Which token plays which role. -/
structure Roles where
  endOfStream : Option TokenId
  error : Option TokenId
  indent : Option TokenId
  dedent : Option TokenId
  endOfLine : Option TokenId
  deriving DecidableEq, Repr

namespace Roles

/-- No role is played. -/
def none : Roles := ⟨.none, .none, .none, .none, .none⟩

/-- The token playing a role. -/
def get? (r : Roles) : Role → Option TokenId
  | .endOfStream => r.endOfStream
  | .error => r.error
  | .indent => r.indent
  | .dedent => r.dedent
  | .endOfLine => r.endOfLine

/-- Gives a role to a token. -/
def assign (r : Roles) (role : Role) (id : TokenId) : Roles :=
  match role with
  | .endOfStream => { r with endOfStream := some id }
  | .error => { r with error := some id }
  | .indent => { r with indent := some id }
  | .dedent => { r with dedent := some id }
  | .endOfLine => { r with endOfLine := some id }

end Roles

/-- The tokens of a language, by id, and who plays which role. -/
structure TokenTable where
  tokens : List TokenDecl
  roles : Roles
  deriving DecidableEq, Repr

namespace TokenTable

/-! ## Checking declarations -/

/-- The complaint about the parent or the literals of one declaration among
`count`, if there is one. -/
def declError? (count : Nat) (d : TokenDecl) : Option TokenError :=
  match d.parent with
  | some p => if p.id ≥ count then some (.unknownParent d.name p.id) else literalError? d
  | none => literalError? d
where
  literalError? (d : TokenDecl) : Option TokenError :=
    match d.recognizer with
    | some (.literals options) =>
      if options.isEmpty then some (.emptyLiterals d.name)
      else if options.any (·.isEmpty) then some (.emptyLiteral d.name)
      else none
    | _ => none

/-- The roles after declaration `id`, given those of the ones before it. -/
def assignRole (all : List TokenDecl) (roles : Roles) (id : TokenId) (d : TokenDecl) :
    Except TokenError Roles :=
  match d.role with
  | none => .ok roles
  | some role =>
    if d.recognizer.isSome then .error (.roleWithRecognizer d.name role)
    else match roles.get? role with
      | some first => .error (.duplicateRole role ((all[first]?).elim "" (·.name)) d.name)
      | none => .ok (roles.assign role id)

/-- Checks the declarations from `id` on, one after the other. -/
def assignRoles (all : List TokenDecl) (id : TokenId) (roles : Roles) :
    List TokenDecl → Except TokenError Roles
  | [] => .ok roles
  | d :: rest =>
    match declError? all.length d with
    | some e => .error e
    | none =>
      match assignRole all roles id d with
      | .error e => .error e
      | .ok roles => assignRoles all (id + 1) roles rest

/-- Whether the chain of parents that starts with `link` ends within `fuel` links. -/
def chainEnds (all : List TokenDecl) : Nat → Option ParentLink → Bool
  | _, none => true
  | 0, some _ => false
  | fuel + 1, some link => chainEnds all fuel (all[link.id]?.bind (·.parent))

/-- The table of these declarations, or the first complaint. A chain of parents
with more links than there are tokens runs in a circle. -/
def ofDecls (decls : List TokenDecl) : Except TokenError TokenTable :=
  match assignRoles decls 0 Roles.none decls with
  | .error e => .error e
  | .ok roles =>
    match decls.find? fun d => !chainEnds decls decls.length d.parent with
    | some d => .error (.cyclicParent d.name)
    | none => .ok ⟨decls, roles⟩

/-! ## Looking things up -/

variable (t : TokenTable)

/-- Number of tokens. -/
def size : Nat := t.tokens.length

/-- The declaration of a token. -/
def get? (id : TokenId) : Option TokenDecl := t.tokens[id]?

/-- Whether the id is a token of the table. -/
def contains (id : TokenId) : Bool := id < t.size

/-- The name of a token. -/
def name (id : TokenId) : Except Fault String := require .outOfRange ((t.get? id).map (·.name))

/-- Names by id. -/
def names : List String := t.tokens.map (·.name)

/-- The token that plays a role. -/
def role? (role : Role) : Option TokenId := t.roles.get? role

/-- Every token with its id. -/
def entries : List (TokenId × TokenDecl) := t.tokens.zipIdx.map fun (d, id) => (id, d)

/-- Direct children of a token, in the order of declaration. -/
def children (parent : TokenId) : List (TokenId × Visibility) :=
  t.entries.filterMap fun (id, d) =>
    match d.parent with
    | some link => if link.id = parent then some (id, link.visibility) else none
    | none => none

/-- Tokens without a parent. -/
def roots : List TokenId :=
  (t.entries.filter fun (_, d) => d.parent.isNone).map (·.1)

/-- The substitutable children of one token, in the order of declaration. -/
def substitutesFor (parent : TokenId) : List TokenId :=
  (t.children parent).filterMap fun (id, v) => if v = .substitutable then some id else none

/-- Every parent of a substitutable child, each once, lowest first. -/
def substituted : List TokenId :=
  ((t.tokens.filterMap fun d =>
    match d.parent with
    | some link => if link.visibility = .substitutable then some link.id else none
    | none => none).mergeSort (· ≤ ·)).eraseDups

/-- The substitutable children of every token that has some, by parent. -/
def substitutes : Assoc TokenId (List TokenId) :=
  t.substituted.map fun p => (p, t.substitutesFor p)

end TokenTable
end GrammarKit
