import GrammarKit.Lexing.Matcher
import Mathlib

/-!
# Where an expression between slashes ends

Who reads an expression between slashes takes a backslash together with the
character after it (`Sign`), and the expression ends at the first slash that
stands alone (`SlashRegex.read?`).

`slashRegex_delimited_iff`: no slash stands alone in the expression of a matcher
exactly if the matcher's own expression escapes no slash, and the expression then
ends where it should unless a backslash stands at its end. Literals always pass.
A pattern that escapes its slashes itself does not: its backslash is escaped once
more and the slash is left alone (`signs_escapeSlashes`). Nor does a pattern that
ends in a comment with a backslash at its end.
-/
namespace GrammarKit

/-- A character of an expression, or two if the first one is a backslash. -/
inductive Sign where
  | plain (c : Char)
  | escaped (c : Char)
  /-- A backslash with nothing after it. -/
  | backslash
  deriving DecidableEq, Repr

namespace SlashRegex

/-- The signs of an expression. -/
def signs : Text → List Sign
  | [] => []
  | c :: rest =>
    if c = '\\' then
      match rest with
      | [] => [.backslash]
      | d :: rest => .escaped d :: signs rest
    else .plain c :: signs rest

/-- The text before the first slash that is not escaped, and the text after it. -/
def cutAtSlash : Text → Option (Text × Text)
  | [] => none
  | c :: rest =>
    if c = '/' then some ([], rest)
    else if c = '\\' then
      match rest with
      | [] => none
      | d :: rest => (cutAtSlash rest).map fun cut => ('\\' :: d :: cut.1, cut.2)
    else (cutAtSlash rest).map fun cut => (c :: cut.1, cut.2)

/-- The expression between the slashes, and the flags after them. -/
def read? : Text → Option (Text × Text)
  | '/' :: rest => cutAtSlash rest
  | _ => none

/-! ## Signs -/

theorem signs_plain {c : Char} (h : c ≠ '\\') (rest : Text) :
    signs (c :: rest) = .plain c :: signs rest := by
  cases rest <;> simp [signs, h]

theorem signs_escaped (c : Char) (rest : Text) :
    signs ('\\' :: c :: rest) = .escaped c :: signs rest := by
  simp [signs]

theorem cutAtSlash_slash (rest : Text) : cutAtSlash ('/' :: rest) = some ([], rest) := by
  cases rest <;> simp [cutAtSlash]

theorem cutAtSlash_plain {c : Char} (hslash : c ≠ '/') (h : c ≠ '\\') (rest : Text) :
    cutAtSlash (c :: rest) = (cutAtSlash rest).map fun cut => (c :: cut.1, cut.2) := by
  cases rest <;> simp [cutAtSlash, hslash, h]

theorem cutAtSlash_escaped (c : Char) (rest : Text) :
    cutAtSlash ('\\' :: c :: rest) =
      (cutAtSlash rest).map fun cut => ('\\' :: c :: cut.1, cut.2) := by
  simp [cutAtSlash]

/-- A text that does not end within a sign is followed by the signs of what comes after it. -/
theorem signs_append {s : Text} (t : Text) (h : .backslash ∉ signs s) :
    signs (s ++ t) = signs s ++ signs t := by
  fun_induction signs s with
  | case1 => rfl
  | case2 => exact absurd List.mem_cons_self h
  | case3 d rest ih =>
    rw [List.cons_append, List.cons_append, signs_escaped, List.cons_append,
      ih (List.not_mem_of_not_mem_cons h)]
  | case4 c rest hc ih =>
    rw [List.cons_append, signs_plain hc, List.cons_append, ih (List.not_mem_of_not_mem_cons h)]

/-- A text is cut before a slash exactly if it has no slash of its own and takes this one not as
part of a sign. -/
theorem cutAtSlash_append_iff {s after : Text} :
    cutAtSlash (s ++ '/' :: after) = some (s, after) ↔
      .plain '/' ∉ signs s ∧ .backslash ∉ signs s := by
  fun_induction signs s with
  | case1 => simp [cutAtSlash_slash]
  | case2 => simp [cutAtSlash_escaped]
  | case3 d rest ih => simp [cutAtSlash_escaped, ← ih, Prod.ext_iff]
  | case4 c rest hc ih =>
    by_cases hslash : c = '/'
    · simp [hslash, cutAtSlash_slash]
    · simp [cutAtSlash_plain hslash hc, ← ih, Prod.ext_iff, Ne.symm hslash]

/-! ## Escaping slashes -/

/-- What escaping slashes makes of a sign. -/
def guarded : Sign → List Sign
  | .plain c => if c = '/' then [.escaped '/'] else [.plain c]
  | .escaped c => if c = '/' then [.escaped '\\', .plain '/'] else [.escaped c]
  | .backslash => [.backslash]

theorem escapeSlashes_cons (c : Char) (rest : Text) :
    escapeSlashes (c :: rest) = (if c = '/' then ['\\', '/'] else [c]) ++ escapeSlashes rest :=
  List.flatMap_cons

/-- Sign by sign, a slash that stands alone is escaped, and one that is escaped is left alone. -/
theorem signs_escapeSlashes (s : Text) : signs (escapeSlashes s) = (signs s).flatMap guarded := by
  fun_induction signs s with
  | case1 => rfl
  | case2 => rfl
  | case3 d rest ih =>
    rw [List.flatMap_cons, ← ih, escapeSlashes_cons, escapeSlashes_cons, guarded]
    by_cases hd : d = '/'
    · simp [hd, signs_escaped, signs_plain]
    · simp [hd, signs_escaped]
  | case4 c rest hc ih =>
    rw [List.flatMap_cons, ← ih, escapeSlashes_cons, guarded]
    by_cases hslash : c = '/'
    · simp [hslash, signs_escaped]
    · simp [hslash, signs_plain hc]

theorem plain_mem_guarded_iff {s : Sign} : .plain '/' ∈ guarded s ↔ s = .escaped '/' := by
  cases s with
  | plain c => by_cases h : c = '/' <;> simp [guarded, h, Ne.symm]
  | escaped c => by_cases h : c = '/' <;> simp [guarded, h]
  | backslash => simp [guarded]

theorem backslash_mem_guarded_iff {s : Sign} : .backslash ∈ guarded s ↔ s = .backslash := by
  cases s with
  | plain c => by_cases h : c = '/' <;> simp [guarded, h]
  | escaped c => by_cases h : c = '/' <;> simp [guarded, h]
  | backslash => simp [guarded]

theorem plain_mem_escapeSlashes_iff {s : Text} :
    .plain '/' ∈ signs (escapeSlashes s) ↔ .escaped '/' ∈ signs s := by
  simp [signs_escapeSlashes, plain_mem_guarded_iff]

theorem backslash_mem_escapeSlashes_iff {s : Text} :
    .backslash ∈ signs (escapeSlashes s) ↔ .backslash ∈ signs s := by
  simp [signs_escapeSlashes, backslash_mem_guarded_iff]

/-! ## Expressions of literals -/

/-- An expression that does not escape slashes and does not end within a sign. -/
def Safe (s : Text) : Prop := .escaped '/' ∉ signs s ∧ .backslash ∉ signs s

theorem safe_nil : Safe [] := ⟨List.not_mem_nil, List.not_mem_nil⟩

theorem safe_singleton {c : Char} (h : c ≠ '\\') : Safe [c] := by
  rw [Safe, signs_plain h]
  simp [signs]

theorem safe_escaped {c : Char} (h : c ≠ '/') : Safe ['\\', c] := by
  rw [Safe, signs_escaped]
  simp [signs, h.symm]

theorem Safe.append {s t : Text} (hs : Safe s) (ht : Safe t) : Safe (s ++ t) := by
  obtain ⟨hescaped, hbackslash⟩ := hs
  rw [Safe, signs_append t hbackslash, List.mem_append, List.mem_append]
  exact ⟨not_or.mpr ⟨hescaped, ht.1⟩, not_or.mpr ⟨hbackslash, ht.2⟩⟩

theorem safe_intercalate {sep : Text} (hsep : Safe sep) {parts : List Text}
    (h : ∀ s ∈ parts, Safe s) : Safe (sep.intercalate parts) := by
  induction parts with
  | nil => exact safe_nil
  | cons s parts ih =>
    obtain ⟨hs, hparts⟩ := List.forall_mem_cons.mp h
    cases parts with
    | nil => simpa using hs
    | cons t parts =>
      rw [List.intercalate_cons_cons]
      exact (hs.append hsep).append (ih hparts)

/-- A slash means nothing in an expression, and a backslash does. -/
theorem safe_escape (literal : Text) : Safe (escape literal) := by
  induction literal with
  | nil => exact safe_nil
  | cons c literal ih =>
    refine Safe.append ?_ ih
    dsimp only
    by_cases hmeta : isMeta c = true
    · rw [if_pos hmeta]
      apply safe_escaped
      rintro rfl
      revert hmeta
      decide
    · rw [if_neg hmeta]
      apply safe_singleton
      rintro rfl
      exact hmeta (by decide)

theorem safe_ofLiterals (literals : List Text) : Safe (ofLiterals literals) := by
  unfold ofLiterals
  split
  · exact safe_escape _
  · have halternatives : Safe (['|'].intercalate (literals.map escape)) := by
      apply safe_intercalate (safe_singleton (by decide))
      intro s hs
      obtain ⟨literal, -, rfl⟩ := List.mem_map.mp hs
      exact safe_escape literal
    have hopen : Safe "(?:".toList := by
      unfold Safe
      decide
    exact (hopen.append halternatives).append (safe_singleton (by decide))

end SlashRegex

/-! ## Expressions of matchers -/

namespace Matcher

/-- Whether a slash is escaped in the expression that a matcher was made from. A literal is no
expression. -/
def EscapesSlash : Matcher → Prop
  | literals _ => False
  | pattern p => .escaped '/' ∈ SlashRegex.signs p.source.toList

/-- Whether that expression ends in a backslash that escapes nothing. -/
def EndsInBackslash : Matcher → Prop
  | literals _ => False
  | pattern p => .backslash ∈ SlashRegex.signs p.source.toList

/-- What stands alone or is left over was made so by escaping slashes once more. -/
theorem signs_slashRegex (m : Matcher) :
    (.plain '/' ∈ SlashRegex.signs m.slashRegex.source.toList ↔ m.EscapesSlash) ∧
      (.backslash ∈ SlashRegex.signs m.slashRegex.source.toList ↔ m.EndsInBackslash) := by
  cases m with
  | literals s =>
    obtain ⟨hescaped, hbackslash⟩ := SlashRegex.safe_ofLiterals s.literals
    rw [slashRegex, SlashRegex.ofSource, String.toList_ofList,
      SlashRegex.plain_mem_escapeSlashes_iff, SlashRegex.backslash_mem_escapeSlashes_iff]
    exact ⟨iff_of_false hescaped id, iff_of_false hbackslash id⟩
  | pattern p =>
    rw [slashRegex, SlashRegex.ofSource, String.toList_ofList,
      SlashRegex.plain_mem_escapeSlashes_iff, SlashRegex.backslash_mem_escapeSlashes_iff]
    exact ⟨Iff.rfl, Iff.rfl⟩

/-- **Where the expression of a matcher ends.** No slash stands alone in it exactly if the matcher's
own expression escapes none. Written between slashes, it is read back with its flags exactly if
its own expression does not end in a lone backslash either. For literals both always hold. -/
theorem slashRegex_delimited_iff (m : Matcher) :
    (.plain '/' ∉ SlashRegex.signs m.slashRegex.source.toList ↔ ¬ m.EscapesSlash) ∧
      (SlashRegex.read? m.slashRegex.text.toList =
          some ('^' :: m.slashRegex.source.toList, m.slashRegex.flags.toList) ↔
        ¬ m.EscapesSlash ∧ ¬ m.EndsInBackslash) := by
  obtain ⟨hslash, hbackslash⟩ := m.signs_slashRegex
  have htext : m.slashRegex.text.toList =
      '/' :: (('^' :: m.slashRegex.source.toList) ++ '/' :: m.slashRegex.flags.toList) := by
    simp [SlashRegex.text, toString]
  have hcaret : SlashRegex.signs ('^' :: m.slashRegex.source.toList) =
      .plain '^' :: SlashRegex.signs m.slashRegex.source.toList :=
    SlashRegex.signs_plain (by decide) _
  refine ⟨not_congr hslash, ?_⟩
  rw [htext, SlashRegex.read?, SlashRegex.cutAtSlash_append_iff, hcaret, ← hslash, ← hbackslash]
  simp

end Matcher

/-! ## Patterns that are not delimited -/

namespace Pattern

section Body

variable {fuel : Nat} {f flags : Flags} {g : Groups} {branches parts : List Part}
  {cs rest after : Text}

/-- Flags between parentheses hold for what follows them. -/
theorem body?_directive (hskip : f.skip cs = '(' :: rest)
    (hopen : opening? f rest = some (.directive flags, after)) :
    body? (fuel + 1) f g branches parts cs =
      body? fuel flags g branches (⟨.empty, 0, true⟩ :: parts) after := by
  rw [body?, hskip]
  simp only [hopen, Option.bind_some]

theorem body?_end (hskip : f.skip cs = []) :
    body? (fuel + 1) f g branches parts cs =
      some (choiceOf (sequenceOf parts :: branches), g, []) := by
  rw [body?, hskip]

end Body

/-- Nothing but a comment, with a backslash at its end. -/
theorem isSome_read_openComment : (read? false "(?x)#\\".toList).isSome := by
  have hopen : opening? (.initial false) ['?', 'x', ')', '#', '\\'] =
      some (.directive { Flags.initial false with verbose := true }, ['#', '\\']) := by cbv
  have hblank : Text.isBlank '#' = false := by cbv
  have hskip : Flags.skip { Flags.initial false with verbose := true } ['#', '\\'] = [] := by
    simp [Flags.skip, skipBlanks, hblank]
  have htext : "(?x)#\\".toList = '(' :: ['?', 'x', ')', '#', '\\'] := rfl
  unfold read?
  rw [htext, List.length_cons, body?_directive rfl hopen, body?_end hskip]
  decide

end Pattern

namespace Matcher

/-- A pattern keeps its expression as it was written. -/
theorem exists_slashRegex_of_read {source : String}
    (h : (Pattern.read? false source.toList).isSome) :
    ∃ p, Pattern.compile? source true none = some p ∧
      (Matcher.pattern p).slashRegex = .ofSource source.toList true := by
  obtain ⟨e, he⟩ := Option.isSome_iff_exists.mp h
  exact ⟨_, congrArg _ he, rfl⟩

/-- If a pattern escapes a slash, the backslash is escaped once more and the slash ends the
expression. If it ends in a comment, a backslash there escapes the slash that should end the
expression. -/
theorem slashRegex_of_backslashes :
    (∃ p, Pattern.compile? "a\\/b" true none = some p ∧
      (Matcher.pattern p).slashRegex.source = "a\\\\/b" ∧
      .plain '/' ∈ SlashRegex.signs (Matcher.pattern p).slashRegex.source.toList ∧
      SlashRegex.read? (Matcher.pattern p).slashRegex.text.toList =
        some ("^a\\\\".toList, "b/".toList)) ∧
    ∃ p, Pattern.compile? "(?x)#\\" true none = some p ∧
      SlashRegex.read? (Matcher.pattern p).slashRegex.text.toList = none := by
  have hread : (Pattern.read? false "a\\/b".toList).isSome := by cbv
  obtain ⟨p, hp, hescaped⟩ := exists_slashRegex_of_read hread
  obtain ⟨q, hq, hcomment⟩ := exists_slashRegex_of_read Pattern.isSome_read_openComment
  refine ⟨⟨p, hp, ?_⟩, q, hq, ?_⟩
  · rw [hescaped]
    decide +kernel
  · rw [hcomment]
    decide +kernel

end Matcher
end GrammarKit
