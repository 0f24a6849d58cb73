import GrammarKit.Pattern.Expr
import GrammarKit.Text.Blank
import GrammarKit.Text.Casing
import GrammarKit.Text.Property.Class

/-!
# Reading regular expressions

`read?` turns the text of a regular expression into an expression, or refuses
it. The syntax has literals and escapes, `.`, the anchors `^` and `$`, classes
in brackets with set operations, named classes, groups with flags, choice, and
greedy and lazy repetition. Look-around and back-references are refused, and so
is everything that could match bytes that are no UTF-8.

Every reading function takes the rest of the text and gives what it read and
the rest after it.
-/
namespace GrammarKit.Pattern

open Text (CharSet)

/-- What is left to read. -/
abbrev Rest := List Char

/-- The flags in force. -/
structure Flags where
  /-- `i`: case does not matter. -/
  ignoreCase : Bool
  /-- `m`: `^` and `$` match at lines. -/
  multiLine : Bool
  /-- `s`: `.` matches newlines. -/
  dotAll : Bool
  /-- `U`: repetition is lazy unless marked. -/
  swapGreed : Bool
  /-- `u`: classes are those of Unicode, not of ASCII. -/
  unicode : Bool
  /-- `R`: lines may end in `\r\n`. -/
  crlf : Bool
  /-- `x`: blanks and comments do not count. -/
  verbose : Bool
  deriving DecidableEq, Repr

namespace Flags

def initial (ignoreCase : Bool) : Flags := ⟨ignoreCase, false, false, false, true, false, false⟩

/-- The flag of a letter set or cleared. -/
def update? (f : Flags) (letter : Char) (value : Bool) : Option Flags :=
  match letter with
  | 'i' => some { f with ignoreCase := value }
  | 'm' => some { f with multiLine := value }
  | 's' => some { f with dotAll := value }
  | 'U' => some { f with swapGreed := value }
  | 'u' => some { f with unicode := value }
  | 'R' => some { f with crlf := value }
  | 'x' => some { f with verbose := value }
  | _ => none

/-- The set with what the flags make equal to its members. -/
def close (f : Flags) (s : CharSet) : CharSet :=
  if f.ignoreCase then
    if f.unicode then Text.Casing.close s else Text.Casing.closeAscii s
  else s

/-- A class after its brackets are closed: case variants come in before the
class is negated. A negated class of ASCII would match stray bytes. -/
def finish? (f : Flags) (negated : Bool) (s : CharSet) : Option CharSet :=
  if negated then if f.unicode then some (f.close s).complement else none else some (f.close s)

end Flags

/-! ## Blanks -/

/-- Skips blanks and comments. -/
def skipBlanks (inComment : Bool) : Rest → Rest
  | [] => []
  | c :: rest =>
    if inComment then skipBlanks (c ≠ '\n') rest
    else if Text.isBlank c then skipBlanks false rest
    else if c = '#' then skipBlanks true rest
    else c :: rest

/-- Skips what does not count. -/
def Flags.skip (f : Flags) (cs : Rest) : Rest := if f.verbose then skipBlanks false cs else cs

/-! ## Numbers -/

/-- Reads digits; blanks between them count only if the flags say so. -/
def digits (f : Flags) : (fuel : Nat) → Nat → Rest → Nat × Rest
  | 0, n, cs => (n, cs)
  | fuel + 1, n, cs =>
    match cs with
    | [] => (n, [])
    | c :: rest =>
      if '0' ≤ c ∧ c ≤ '9' then digits f fuel (10 * n + (c.toNat - 48)) (f.skip rest) else (n, cs)

/-- Skips blanks around a number, which never count. -/
def skipAround (f : Flags) : (fuel : Nat) → Rest → Rest
  | 0, cs => cs
  | fuel + 1, cs =>
    match cs with
    | [] => []
    | c :: rest => if Text.isBlank c then skipAround f fuel (f.skip rest) else cs

/-- Reads a decimal number below 2^32. -/
def decimal? (f : Flags) (cs : Rest) : Option (Nat × Rest) :=
  let cs := cs.dropWhile Text.isBlank
  match cs with
  | [] => none
  | c :: _ =>
    if '0' ≤ c ∧ c ≤ '9' then
      let (n, rest) := digits f cs.length 0 cs
      if n < 0x100000000 then some (n, skipAround f rest.length rest) else none
    else none

/-- The character with a code point. -/
def charOf? (n : Nat) : Option Char := if h : n.isValidChar then some (Char.ofNatAux n h) else none

/-- Reads hexadecimal digits, exactly so many. -/
def hexDigits? (f : Flags) : Nat → Nat → Rest → Option (Nat × Rest)
  | 0, n, cs => some (n, cs)
  | k + 1, n, cs =>
    match cs with
    | [] => none
    | c :: rest => (CharSet.hexDigit? c).bind fun d => hexDigits? f k (16 * n + d) (f.skip rest)

/-- Reads hexadecimal digits up to a closing brace; `some` says there was one. -/
def hexUntilBrace? (f : Flags) : (fuel : Nat) → Option Nat → Rest → Option (Nat × Rest)
  | 0, _, _ => none
  | fuel + 1, n, cs =>
    match cs with
    | [] => none
    | '\x7d' :: rest => n.map fun n => (n, f.skip rest)
    | c :: rest =>
      (CharSet.hexDigit? c).bind fun d =>
        hexUntilBrace? f fuel (some (16 * n.getD 0 + d)) (f.skip rest)

/-! ## Escapes -/

/-- One element of an expression or a class. -/
inductive Atom where
  /-- A character; `isByte` if it was written as a two-digit byte. -/
  | char (c : Char) (isByte : Bool)
  /-- A class, already negated. -/
  | cls (set : CharSet)
  | look (look : Look)

/-- Whether an escaped character stands for itself: ASCII punctuation, blanks
and control characters do, except the angle brackets. -/
def standsForItself (c : Char) : Bool :=
  c.toNat < 0x80 && !(c.isAlphanum || c = '<' || c = '>')

/-- The characters with letter escapes. -/
def letterEscape? : Char → Option Char
  | 'a' => some '\x07'
  | 'f' => some '\x0c'
  | 't' => some '\t'
  | 'n' => some '\n'
  | 'r' => some '\r'
  | 'v' => some '\x0b'
  | _ => none

/-- The members of `\d`, `\s` and `\w`. -/
def letterSet (unicode : Bool) : Char → CharSet
  | 'd' => if unicode then Text.Property.digit else CharSet.ofRanges [(48, 57)]
  | 's' => if unicode then Text.Property.space else CharSet.ofRanges [(9, 13), (32, 32)]
  | _ => if unicode then Text.Property.word
    else CharSet.ofRanges [(48, 57), (65, 90), (95, 95), (97, 122)]

/-- Reads the number after `\x`, `\u` or `\U`, which has so many digits unless
it stands in braces. -/
def hexEscape? (f : Flags) (count : Nat) (cs : Rest) : Option (Atom × Rest) :=
  match f.skip cs with
  | [] => none
  | '\x7b' :: rest =>
    (hexUntilBrace? f cs.length none (f.skip rest)).bind fun (n, rest) =>
      (charOf? n).map fun c => (.char c false, rest)
  | cs => (hexDigits? f count 0 cs).bind fun (n, rest) =>
      (charOf? n).map fun c => (.char c (count = 2), rest)

/-- Reads up to a closing brace. -/
def untilBrace? (f : Flags) : (fuel : Nat) → Rest → Option (List Char × Rest)
  | 0, _ => none
  | fuel + 1, cs =>
    match cs with
    | [] => none
    | '\x7d' :: rest => some ([], rest)
    | c :: rest => (untilBrace? f fuel (f.skip rest)).map fun (name, rest) => (c :: name, rest)

/-- Splits a text at the first place where `mark` stands. -/
def splitAt? (mark : List Char) : List Char → Option (List Char × List Char)
  | [] => none
  | c :: cs =>
    if mark.isPrefixOf (c :: cs) then some ([], (c :: cs).drop mark.length)
    else (splitAt? mark cs).map fun (a, b) => (c :: a, b)

/-- The class of a name, or of a property and its value, and whether the name
itself negates it. -/
def namedSet? (name : List Char) : Option (CharSet × Bool) :=
  match splitAt? ['!', '='] name with
  | some (p, v) => (Text.Property.classByValue? p v).map (·, true)
  | none =>
    match splitAt? [':'] name with
    | some (p, v) => (Text.Property.classByValue? p v).map (·, false)
    | none =>
      match splitAt? ['='] name with
      | some (p, v) => (Text.Property.classByValue? p v).map (·, false)
      | none => (Text.Property.class? name).map (·, false)

/-- Reads the name after `\p` or `\P`. -/
def namedClass? (f : Flags) (negated : Bool) (cs : Rest) : Option (Atom × Rest) :=
  let named (name : List Char) (rest : Rest) : Option (Atom × Rest) :=
    if f.unicode then
      (namedSet? name).bind fun (s, flipped) =>
        (f.finish? (negated != flipped) s).map fun s => (.cls s, rest)
    else none
  match f.skip cs with
  | [] => none
  | '\x7b' :: rest => (untilBrace? f rest.length.succ (f.skip rest)).bind fun (name, rest) =>
    named name rest
  | '\\' :: _ => none
  | c :: rest => named [c] (f.skip rest)

/-- The special word assertions `\b{start}` and the like. -/
def specialWord? (unicode : Bool) (name : List Char) : Option Look :=
  if name = "start".toList then some (.wordStart unicode)
  else if name = "end".toList then some (.wordEnd unicode)
  else if name = "start-half".toList then some (.wordStartHalf unicode)
  else if name = "end-half".toList then some (.wordEndHalf unicode)
  else none

/-- Whether a character can be part of the name of a special word assertion. -/
def isSpecialWordChar (c : Char) : Bool := c.isAlpha || c = '-'

/-- Reads the letters of a special word assertion. -/
def specialWordName (f : Flags) : (fuel : Nat) → Rest → List Char × Rest
  | 0, cs => ([], cs)
  | fuel + 1, cs =>
    match cs with
    | [] => ([], [])
    | c :: rest =>
      if isSpecialWordChar c then
        let (name, rest) := specialWordName f fuel (f.skip rest)
        (c :: name, rest)
      else ([], cs)

/-- Reads what follows `\b`: a name in braces makes it special, anything else in
braces is left to be a repetition. -/
def wordEscape? (f : Flags) (cs : Rest) : Option (Atom × Rest) :=
  match cs with
  | '\x7b' :: inside =>
    match f.skip inside with
    | [] => none
    | c :: rest =>
      if isSpecialWordChar c then
        match specialWordName f (c :: rest).length (c :: rest) with
        | (name, '\x7d' :: rest) => (specialWord? f.unicode name).map fun l => (.look l, rest)
        | _ => none
      else some (.look (.wordBoundary f.unicode), cs)
  | _ => some (.look (.wordBoundary f.unicode), cs)

/-- Reads what follows a backslash. -/
def escape? (f : Flags) : Rest → Option (Atom × Rest)
  | [] => none
  | c :: rest =>
    match c with
    | 'x' => hexEscape? f 2 rest
    | 'u' => hexEscape? f 4 rest
    | 'U' => hexEscape? f 8 rest
    | 'p' => namedClass? f false rest
    | 'P' => namedClass? f true rest
    | 'd' | 's' | 'w' => some (.cls (letterSet f.unicode c), rest)
    | 'D' | 'S' | 'W' =>
      if f.unicode then some (.cls (letterSet true c.toLower).complement, rest) else none
    | 'A' => some (.look .textStart, rest)
    | 'z' => some (.look .textEnd, rest)
    | 'b' => wordEscape? f rest
    | 'B' => some (.look (.notWordBoundary f.unicode), rest)
    | '<' => some (.look (.wordStart f.unicode), rest)
    | '>' => some (.look (.wordEnd f.unicode), rest)
    | _ =>
      if standsForItself c then some (.char c false, rest)
      else (letterEscape? c).map fun d => (.char d false, rest)

/-! ## Classes in brackets -/

/-- The classes with names between `[:` and `:]`. -/
def asciiClass? (name : List Char) : Option CharSet :=
  let classes : List (String × List (Nat × Nat)) := [
    ("alnum", [(48, 57), (65, 90), (97, 122)]),
    ("alpha", [(65, 90), (97, 122)]),
    ("ascii", [(0, 127)]),
    ("blank", [(9, 9), (32, 32)]),
    ("cntrl", [(0, 31), (127, 127)]),
    ("digit", [(48, 57)]),
    ("graph", [(33, 126)]),
    ("lower", [(97, 122)]),
    ("print", [(32, 126)]),
    ("punct", [(33, 47), (58, 64), (91, 96), (123, 126)]),
    ("space", [(9, 13), (32, 32)]),
    ("upper", [(65, 90)]),
    ("word", [(48, 57), (65, 90), (95, 95), (97, 122)]),
    ("xdigit", [(48, 57), (65, 70), (97, 102)])]
  (classes.find? fun e => e.1.toList = name).map fun e => CharSet.ofRanges e.2

/-- Reads `[:name:]` or `[:^name:]` after the bracket. The class is not read if
it has no such form; it is refused if it cannot be negated. -/
def bracketedName? (f : Flags) (cs : Rest) : Option (Option CharSet × Rest) :=
  match cs with
  | ':' :: cs =>
    let (negated, cs) := match cs with
      | '^' :: cs => (true, cs)
      | cs => (false, cs)
    match cs.dropWhile (· ≠ ':') with
    | ':' :: ']' :: rest =>
      (asciiClass? (cs.takeWhile (· ≠ ':'))).map fun s => (f.finish? negated s, rest)
    | _ => none
  | _ => none

/-- A character that may stand in a class: without the flag for Unicode only an
ASCII one. -/
def classChar? (f : Flags) (c : Char) : Option Char :=
  if f.unicode || c.toNat < 0x80 then some c else none

/-- Reads one element of a class. -/
def classAtom? (f : Flags) : Rest → Option (Atom × Rest)
  | [] => none
  | '\\' :: rest => escape? f rest
  | c :: rest => some (.char c false, rest)

/-- The members of one element of a class. -/
def atomSet? (f : Flags) : Atom → Option CharSet
  | .char c _ => (classChar? f c).map CharSet.singleton
  | .cls s => some s
  | .look _ => none

/-- Reads one element of a class or a range between two. A hyphen before the
closing bracket or before another hyphen starts no range. -/
def classRange? (f : Flags) (cs : Rest) : Option (CharSet × Rest) := do
  let (a, rest) ← classAtom? f cs
  let rest := f.skip rest
  match rest with
  | [] => none
  | '-' :: after =>
    match f.skip after with
    | [] => none
    | ']' :: _ | '-' :: _ => (atomSet? f a).map (·, rest)
    | after =>
      let (b, rest) ← classAtom? f after
      match a, b with
      | .char c _, .char d _ =>
        let c ← classChar? f c
        let d ← classChar? f d
        if c ≤ d then some (CharSet.ofRanges [(c.toNat, d.toNat)], rest) else none
      | _, _ => none
  | _ => (atomSet? f a).map (·, rest)

/-- The operations between parts of a class. -/
inductive SetOp where
  | inter
  | diff
  | symmDiff

def SetOp.apply : SetOp → CharSet → CharSet → CharSet
  | inter => CharSet.inter
  | diff => CharSet.diff
  | symmDiff => CharSet.symmDiff

/-- A class being read: the operation that waits for its second part with its
first part, the members of the current part, how many elements these came from,
and how deep they nest. -/
structure OpenClass where
  pending : Option (SetOp × CharSet)
  members : CharSet
  count : Nat
  depth : Nat

namespace OpenClass

def empty : OpenClass := ⟨none, CharSet.empty, 0, 0⟩

/-- The class with more members. -/
def add (o : OpenClass) (s : CharSet) (depth : Nat) : OpenClass :=
  { o with members := o.members.union s, count := o.count + 1, depth := o.depth.max depth }

/-- The depth of the parts read so far. -/
def partDepth (o : OpenClass) : Nat := if o.count ≤ 1 then o.depth else o.depth + 1

/-- The members of the parts read so far. -/
def value (f : Flags) (o : OpenClass) : CharSet :=
  match o.pending with
  | none => o.members
  | some (op, first) => op.apply (f.close first) (f.close o.members)

/-- The class after an operator. -/
def operate (f : Flags) (o : OpenClass) (op : SetOp) : OpenClass :=
  ⟨some (op, o.value f), CharSet.empty, 0, o.partDepth + 1⟩

end OpenClass

/-- Reads literal hyphens at the front of a class. -/
def leadingHyphens (f : Flags) : (fuel : Nat) → OpenClass → Rest → OpenClass × Rest
  | 0, o, cs => (o, cs)
  | fuel + 1, o, cs =>
    match cs with
    | '-' :: rest => leadingHyphens f fuel (o.add (CharSet.singleton '-') 0) (f.skip rest)
    | _ => (o, cs)

/-- Reads what follows the opening bracket of a class: a negation, literal
hyphens, and a closing bracket that stands first and is a member. -/
def classStart (f : Flags) (cs : Rest) : Bool × OpenClass × Rest :=
  let (negated, cs) := match f.skip cs with
    | '^' :: rest => (true, f.skip rest)
    | cs => (false, cs)
  let (o, cs) := leadingHyphens f cs.length .empty cs
  match cs with
  | ']' :: rest =>
    if o.count = 0 then (negated, o.add (CharSet.singleton ']') 0, f.skip rest)
    else (negated, o, cs)
  | _ => (negated, o, cs)

/-- Reads a class after its start, to the closing bracket. The results are the
members and how deep the class nests. -/
def classBody? (f : Flags) : (fuel : Nat) → (negated : Bool) → OpenClass → Rest →
    Option (CharSet × Nat × Rest)
  | 0, _, _, _ => none
  | fuel + 1, negated, o, cs =>
    match f.skip cs with
    | [] => none
    | ']' :: rest => (f.finish? negated (o.value f)).map fun s => (s, o.partDepth + 1, rest)
    | '[' :: rest =>
      match bracketedName? f rest with
      | some (s, rest) => s.bind fun s => classBody? f fuel negated (o.add s 0) rest
      | none =>
        let (inner, start, rest) := classStart f rest
        (classBody? f fuel inner start rest).bind fun (s, depth, rest) =>
          classBody? f fuel negated (o.add s depth) rest
    | '&' :: '&' :: rest => classBody? f fuel negated (o.operate f .inter) rest
    | '-' :: '-' :: rest => classBody? f fuel negated (o.operate f .diff) rest
    | '~' :: '~' :: rest => classBody? f fuel negated (o.operate f .symmDiff) rest
    | cs =>
      (classRange? f cs).bind fun (s, rest) => classBody? f fuel negated (o.add s 0) rest

/-- Reads a class after its opening bracket. -/
def bracketClass? (f : Flags) (cs : Rest) : Option (CharSet × Nat × Rest) :=
  let (negated, start, rest) := classStart f cs
  classBody? f (rest.length + 1) negated start rest

/-! ## Sequences, groups and repetition -/

/-- A part of a sequence and how deep it nests. A change of flags is a part,
too, but one that cannot be repeated. -/
structure Part where
  expr : Expr
  depth : Nat
  isDirective : Bool

/-- The deepest nesting that is allowed. -/
def maxDepth : Nat := 250

/-- Nesting of a whole with these members: one member adds nothing. -/
def depthOf (depths : List Nat) : Nat :=
  match depths with
  | [] => 0
  | [d] => d
  | _ => depths.foldl Nat.max 0 + 1

/-- The sequence of parts, last part first. -/
def sequenceOf (parts : List Part) : Part :=
  ⟨Expr.sequence (parts.reverse.map (·.expr)), depthOf (parts.map (·.depth)), false⟩

/-- The choice between branches, last branch first. -/
def choiceOf (branches : List Part) : Part :=
  ⟨Expr.alternatives (branches.reverse.map (·.expr)), depthOf (branches.map (·.depth)), false⟩

/-- A character as an expression. -/
def charExpr (f : Flags) (c : Char) : Expr :=
  if f.ignoreCase then Expr.ofSet (f.close (CharSet.singleton c)) else .literal [c]

/-- An atom as an expression. A byte beyond ASCII is refused. -/
def atomExpr? (f : Flags) : Atom → Option Expr
  | .char c isByte => if isByte && !f.unicode && c.toNat ≥ 0x80 then none else some (charExpr f c)
  | .cls s => some (Expr.ofSet s)
  | .look l => some (.look l)

/-- What `.` matches. -/
def dot? (f : Flags) : Option Expr :=
  if !f.unicode then none
  else
    let excluded := if f.dotAll then [] else if f.crlf then [(10, 10), (13, 13)] else [(10, 10)]
    some (.set (CharSet.complement ⟨excluded⟩))

/-- What `^` means. -/
def Flags.lineStart (f : Flags) : Look :=
  if !f.multiLine then .textStart else if f.crlf then .crlfStart else .lineStart

/-- What `$` means. -/
def Flags.lineEnd (f : Flags) : Look :=
  if !f.multiLine then .textEnd else if f.crlf then .crlfEnd else .lineEnd

/-- Repeats the last part. -/
def repeatLast? (f : Flags) (min : Nat) (max : Option Nat) (isLazy : Bool) :
    List Part → Option (List Part)
  | [] => none
  | p :: parts =>
    if p.isDirective then none
    else
      some (⟨p.expr.times min max (isLazy == f.swapGreed), p.depth + 1, false⟩ :: parts)

/-- Reads a question mark that makes a repetition lazy. -/
def lazyMark (cs : Rest) : Bool × Rest :=
  match cs with
  | '?' :: rest => (true, rest)
  | _ => (false, cs)

/-- Reads the counts of a repetition after the opening brace. -/
def counts? (f : Flags) (cs : Rest) : Option (Nat × Option Nat × Rest) := do
  let (min, rest) ← decimal? f (f.skip cs)
  match rest with
  | '\x7d' :: rest => some (min, some min, rest)
  | ',' :: rest =>
    match f.skip rest with
    | '\x7d' :: rest => some (min, none, rest)
    | rest =>
      let (max, rest) ← decimal? f rest
      match rest with
      | '\x7d' :: rest => if min ≤ max then some (min, some max, rest) else none
      | _ => none
  | _ => none

/-- Reads flags up to the colon or parenthesis after them. `seen` are the
letters so far, a hyphen among them if the rest is cleared. The result says
whether there were any. -/
def flagLetters? (f : Flags) (seen : List Char) : Rest → Option (Flags × Bool × Rest)
  | [] => none
  | ':' :: rest => if seen.head? = some '-' then none else some (f, !seen.isEmpty, ':' :: rest)
  | ')' :: rest => if seen.head? = some '-' then none else some (f, !seen.isEmpty, ')' :: rest)
  | c :: rest =>
    if seen.contains c then none
    else if c = '-' then flagLetters? f (c :: seen) rest
    else (f.update? c (!seen.contains '-')).bind fun f => flagLetters? f (c :: seen) rest

/-- Whether a character can stand in the name of a group. -/
def isNameChar (first : Bool) (c : Char) : Bool :=
  if first then c = '_' || Text.Property.alphabetic.contains c
  else c = '_' || c = '.' || c = '[' || c = ']' || Text.Property.alphanumeric.contains c

/-- Reads the name of a group, to the closing angle bracket. -/
def groupName? (cs : Rest) : Option (List Char × Rest) :=
  let name := cs.takeWhile (· ≠ '>')
  match name, cs.dropWhile (· ≠ '>') with
  | c :: more, _ :: rest =>
    if isNameChar true c && more.all (isNameChar false) then some (name, rest) else none
  | _, _ => none

/-- How a parenthesis opens. -/
inductive Opening where
  /-- A change of flags up to the end of the group around it. -/
  | directive (flags : Flags)
  /-- A group without number, under its own flags. -/
  | plain (flags : Flags)
  /-- A numbered group, possibly with a name. -/
  | numbered (name : Option (List Char))

/-- Reads what follows an opening parenthesis. -/
def opening? (f : Flags) (cs : Rest) : Option (Opening × Rest) :=
  match f.skip cs with
  | '?' :: '=' :: _ | '?' :: '!' :: _ | '?' :: '<' :: '=' :: _ | '?' :: '<' :: '!' :: _ => none
  | '?' :: 'P' :: '<' :: rest | '?' :: '<' :: rest =>
    (groupName? rest).map fun (name, rest) => (.numbered (some name), rest)
  | '?' :: rest =>
    (flagLetters? f [] rest).bind fun (flags, any, rest) =>
      match rest with
      | ')' :: rest => if any then some (.directive flags, rest) else none
      | _ :: rest => some (.plain flags, rest)
      | [] => none
  | rest => some (.numbered none, rest)

/-- The groups read so far: how many have numbers, and their names. -/
structure Groups where
  count : Nat
  names : List (List Char)

/-- The groups with one more, whose name must be new. -/
def Groups.add? (g : Groups) : Option (List Char) → Option Groups
  | none => some { g with count := g.count + 1 }
  | some name => if g.names.contains name then none else some ⟨g.count + 1, name :: g.names⟩

/-- Reads a choice, to the closing parenthesis or the end. `branches` are the
branches before the current one and `parts` the parts of that, both last first. -/
def body? : (fuel : Nat) → Flags → Groups → (branches parts : List Part) → Rest →
    Option (Part × Groups × Rest)
  | 0, _, _, _, _, _ => none
  | fuel + 1, f, g, branches, parts, cs =>
    match f.skip cs with
    | [] => some (choiceOf (sequenceOf parts :: branches), g, [])
    | ')' :: rest => some (choiceOf (sequenceOf parts :: branches), g, ')' :: rest)
    | '|' :: rest => body? fuel f g (sequenceOf parts :: branches) [] rest
    | '(' :: rest =>
      (opening? f rest).bind fun (opening, rest) =>
        match opening with
        | .directive flags => body? fuel flags g branches (⟨.empty, 0, true⟩ :: parts) rest
        | .plain flags =>
          (body? fuel flags g [] [] rest).bind fun (p, g, rest) =>
            match rest with
            | ')' :: rest => body? fuel f g branches (⟨p.expr, p.depth + 1, false⟩ :: parts) rest
            | _ => none
        | .numbered name =>
          (g.add? name).bind fun g' =>
            (body? fuel f g' [] [] rest).bind fun (p, g', rest) =>
              match rest with
              | ')' :: rest =>
                body? fuel f g' branches (⟨.group g.count p.expr, p.depth + 1, false⟩ :: parts) rest
              | _ => none
    | '[' :: rest =>
      (bracketClass? f rest).bind fun (s, depth, rest) =>
        body? fuel f g branches (⟨Expr.ofSet s, depth, false⟩ :: parts) rest
    | '?' :: rest =>
      let (isLazy, rest) := lazyMark rest
      (repeatLast? f 0 (some 1) isLazy parts).bind fun parts => body? fuel f g branches parts rest
    | '*' :: rest =>
      let (isLazy, rest) := lazyMark rest
      (repeatLast? f 0 none isLazy parts).bind fun parts => body? fuel f g branches parts rest
    | '+' :: rest =>
      let (isLazy, rest) := lazyMark rest
      (repeatLast? f 1 none isLazy parts).bind fun parts => body? fuel f g branches parts rest
    | '\x7b' :: rest =>
      (counts? f rest).bind fun (min, max, rest) =>
        let (isLazy, rest) := lazyMark (f.skip rest)
        (repeatLast? f min max isLazy parts).bind fun parts => body? fuel f g branches parts rest
    | '\\' :: rest =>
      (escape? f rest).bind fun (atom, rest) =>
        (atomExpr? f atom).bind fun e => body? fuel f g branches (⟨e, 0, false⟩ :: parts) rest
    | '.' :: rest =>
      (dot? f).bind fun e => body? fuel f g branches (⟨e, 0, false⟩ :: parts) rest
    | '^' :: rest => body? fuel f g branches (⟨.look f.lineStart, 0, false⟩ :: parts) rest
    | '$' :: rest => body? fuel f g branches (⟨.look f.lineEnd, 0, false⟩ :: parts) rest
    | c :: rest => body? fuel f g branches (⟨charExpr f c, 0, false⟩ :: parts) rest

/-- The expression that a text spells. -/
def read? (ignoreCase : Bool) (text : List Char) : Option Expr :=
  match body? (text.length + 1) (Flags.initial ignoreCase) ⟨0, []⟩ [] [] text with
  | some (p, _, []) => if p.depth ≤ maxDepth then some p.expr else none
  | _ => none

end GrammarKit.Pattern
