import GrammarKit.Proofs.Lexing.Indentation
import GrammarKit.Proofs.Lexing.Recognition
import GrammarKit.Proofs.Lexing.Tiling
import Mathlib

/-!
# Blocks and lines

What a lexer reports about the layout of a text has a discipline. Indents and
dedents pair up (`Paired`), and if there are end-of-line tokens, blocks begin
and end at lines (`Lined`).

Both are kept token by token: `Tidy` says what is reported up to some point, with
a number of blocks open. A block opens or closes only behind an end of line, or
behind a dedent (`AtLine`), and the pass is at such a point before every margin,
since a margin is the first piece of a line (`MarginsFirst`).

The result is `lex_blocks`.
-/
namespace GrammarKit

/-- Indents and dedents pair up: none closes what is not open, and all is closed
in the end. -/
structure Paired (indent dedent : TokenId) (ts : List TokenId) : Prop where
  count_le : ∀ before, before <+: ts → before.count dedent ≤ before.count indent
  count_eq : ts.count dedent = ts.count indent

/-- The tokens are arranged in lines. -/
structure Lined (eol indent dedent eos : TokenId) (ts : List TokenId) : Prop where
  /-- The first line is not empty. -/
  head_ne : ts.head? ≠ some eol
  /-- Neither are the others. -/
  single : ∀ before after, ts ≠ before ++ eol :: eol :: after
  /-- Between two lines blocks are closed, and then at most one is opened. -/
  blocks : ∀ before block after, ts = before ++ block ++ after → block ≠ [] →
    (∀ t ∈ block, t = indent ∨ t = dedent) →
    (∀ t ∈ before.getLast?, t ≠ indent ∧ t ≠ dedent) →
    (∀ t ∈ after.head?, t ≠ indent ∧ t ≠ dedent) →
    (∃ n, block = List.replicate n dedent ∨ block = List.replicate n dedent ++ [indent]) ∧
      (before = [] ∨ before.getLast? = some eol)
  /-- At the end, the last line and then all blocks are closed. -/
  closing : ts ≠ [eos] → ∃ before n, ts = before ++ [eol] ++ List.replicate n dedent ++ [eos]

/-- The tokens that events report. -/
def reported (events : List LexEvent) : List TokenId := (found events).map (·.token)

@[simp] theorem reported_append (es fs : List LexEvent) :
    reported (es ++ fs) = reported es ++ reported fs := by
  rw [reported, found_append, List.map_append]
  rfl

theorem found_replicate_dedent (n : Nat) (o : Occurrence) :
    found (List.replicate n (.dedent o)) = List.replicate n o :=
  List.filterMap_replicate_of_some rfl

theorem reported_replicate_dedent (n : Nat) (o : Occurrence) :
    reported (List.replicate n (.dedent o)) = List.replicate n o.token := by
  rw [reported, found_replicate_dedent, List.map_replicate]

theorem reported_innerNewlines (offset : Nat) (text : Text) :
    reported (innerNewlines offset text) = [] := by
  rw [reported, found_innerNewlines]
  rfl

/-! ## Margins -/

/-- Margins are at the starts of lines only; `atLineStart` tells whether the
first piece is at one. -/
def MarginsFirst : (atLineStart : Bool) → List Piece → Prop
  | _, [] => True
  | atLineStart, p :: ps =>
    ((∃ blanks, p = .margin blanks) → atLineStart = true) ∧ MarginsFirst p.endsLine ps

theorem MarginsFirst.weaken {ps : List Piece} (h : MarginsFirst false ps) :
    MarginsFirst true ps := by
  cases ps with
  | nil => trivial
  | cons p ps => exact ⟨fun _ => rfl, h.2⟩

theorem Lexer.marginsFirst_piecesFrom (lx : Lexer) (prev : Option Char) (atLineStart : Bool)
    (rest : Text) : MarginsFirst atLineStart (lx.piecesFrom prev atLineStart rest) := by
  fun_induction piecesFrom lx prev atLineStart rest with
  | case1 prev rest blanks hmargin ih => exact ⟨fun _ => rfl, ih⟩
  | case2 prev rest hmargin ih => exact ih.weaken
  | case3 => trivial
  | case4 prev _ _ c rest p ih =>
    refine ⟨?_, ih⟩
    intro h
    obtain ⟨blanks, hblanks⟩ := h
    have hp : lx.piece prev c rest = .margin blanks := hblanks
    rcases lx.piece_cases prev c rest with ⟨d, h⟩ | ⟨crlf, h⟩ | ⟨u, h⟩ | ⟨u, crlf, h⟩ |
      ⟨b, -, h⟩ | ⟨-, h⟩
    all_goals
      rw [h] at hp
      cases hp

/-! ## What is reported so far -/

section Layout

variable {lx : Lexer} {indent dedent : TokenId}

/-- The tokens that the lexer reports for the layout of a text. -/
def layoutTokens (lx : Lexer) (indent dedent : TokenId) : List TokenId :=
  [indent, dedent, lx.endOfStream] ++ lx.endOfLine.toList

/-- The lexer reports blocks, and different things by different tokens. -/
structure HasBlocks (lx : Lexer) (indent dedent : TokenId) : Prop where
  indentation_eq : lx.indentation = some (indent, dedent)
  nodup : (layoutTokens lx indent dedent).Nodup
  error_notMem : lx.error ∉ layoutTokens lx indent dedent

/-- Which token may follow which: no end of line another one, and blocks begin and
end behind an end of line or where another one ends. -/
def Follows (indent dedent eol : TokenId) (x y : TokenId) : Prop :=
  (y = eol → x ≠ eol) ∧ (y = indent ∨ y = dedent → x = eol ∨ x = dedent)

/-- The tokens are reported in order, with a number of blocks open. -/
structure Tidy (lx : Lexer) (indent dedent : TokenId) (ts : List TokenId) (opened : Nat) :
    Prop where
  count_eq : ts.count indent = ts.count dedent + opened
  count_le : ∀ before, before <+: ts → before.count dedent ≤ before.count indent
  eos_notMem : lx.endOfStream ∉ ts
  head_ne : ∀ eol ∈ lx.endOfLine, ts.head? ≠ some eol
  chain : ∀ eol ∈ lx.endOfLine, ts.IsChain (Follows indent dedent eol)

/-- Blocks may begin and end here. -/
def AtLine (lx : Lexer) (dedent : TokenId) (ts : List TokenId) : Prop :=
  ∀ eol ∈ lx.endOfLine, ∀ t ∈ ts.getLast?, t = eol ∨ t = dedent

theorem tidy_nil : Tidy lx indent dedent [] 0 :=
  ⟨rfl, fun before h => by rw [List.prefix_nil.mp h]; exact Nat.le_refl 0, List.not_mem_nil,
    fun _ _ => by simp, fun _ _ => .nil⟩

/-- One more token. -/
theorem Tidy.snoc {ts : List TokenId} {opened opened' : Nat} (h : Tidy lx indent dedent ts opened)
    {t : TokenId} (hcount : opened + [t].count indent = opened' + [t].count dedent)
    (heos : t ≠ lx.endOfStream) (hhead : ∀ eol ∈ lx.endOfLine, ts = [] → t ≠ eol)
    (hlast : ∀ eol ∈ lx.endOfLine, ∀ x ∈ ts.getLast?, Follows indent dedent eol x t) :
    Tidy lx indent dedent (ts ++ [t]) opened' where
  count_eq := by
    have := h.count_eq
    rw [List.count_append, List.count_append]
    omega
  count_le := by
    intro before hbefore
    rcases List.prefix_concat_iff.mp hbefore with rfl | hbefore
    · have := h.count_eq
      rw [List.count_append, List.count_append]
      omega
    · exact h.count_le before hbefore
  eos_notMem := by
    intro hmem
    rcases List.mem_append.mp hmem with hmem | hmem
    · exact h.eos_notMem hmem
    · exact heos (List.mem_singleton.mp hmem).symm
  head_ne := by
    intro eol heol
    cases ts with
    | nil => exact fun heq => hhead eol heol rfl (Option.some.inj heq)
    | cons x ts => exact h.head_ne eol heol
  chain := by
    intro eol heol
    refine List.isChain_append.mpr ⟨h.chain eol heol, .singleton t, ?_⟩
    intro x hx y hy
    cases hy
    exact hlast eol heol x hx

/-- A token that has nothing to do with layout. -/
theorem Tidy.plain {ts : List TokenId} {opened : Nat} (h : Tidy lx indent dedent ts opened)
    {t : TokenId} (ht : t ∉ layoutTokens lx indent dedent) :
    Tidy lx indent dedent (ts ++ [t]) opened := by
  simp only [layoutTokens, List.mem_append, List.mem_cons, List.not_mem_nil, or_false, not_or,
    Option.mem_toList] at ht
  obtain ⟨⟨hindent, hdedent, heos⟩, heol⟩ := ht
  refine h.snoc ?_ heos (fun eol hmem _ heq => heol (heq ▸ hmem)) ?_
  · rw [List.count_singleton, List.count_singleton]
    simp [hindent, hdedent]
  · intro eol hmem x _
    refine ⟨fun heq => absurd (heq ▸ hmem) heol, fun hblock => ?_⟩
    rcases hblock with hblock | hblock
    · exact absurd hblock hindent
    · exact absurd hblock hdedent

namespace HasBlocks

variable (hlx : HasBlocks lx indent dedent)
include hlx

theorem indent_ne_dedent : indent ≠ dedent := by
  have hnodup := hlx.nodup
  rw [layoutTokens, List.cons_append] at hnodup
  exact fun heq => (List.nodup_cons.mp hnodup).1 (heq ▸ List.mem_cons_self)

theorem eos_ne : lx.endOfStream ≠ indent ∧ lx.endOfStream ≠ dedent := by
  have hnodup := (List.nodup_append.mp hlx.nodup).1
  simp only [List.nodup_cons, List.mem_cons, List.not_mem_nil, or_false, not_or] at hnodup
  obtain ⟨⟨-, hindent⟩, hdedent, -⟩ := hnodup
  exact ⟨Ne.symm hindent, Ne.symm hdedent⟩

theorem eol_ne {eol : TokenId} (h : eol ∈ lx.endOfLine) :
    eol ≠ indent ∧ eol ≠ dedent ∧ eol ≠ lx.endOfStream := by
  have hne : ∀ t ∈ [indent, dedent, lx.endOfStream], t ≠ eol := fun t ht =>
    (List.nodup_append.mp hlx.nodup).2.2 t ht eol (Option.mem_toList.mpr h)
  exact ⟨(hne indent (by simp)).symm, (hne dedent (by simp)).symm, (hne _ (by simp)).symm⟩

end HasBlocks

variable (hlx : HasBlocks lx indent dedent) {ts : List TokenId} {opened : Nat}
include hlx

/-- The end of a line that has something on it. -/
theorem Tidy.endLine (h : Tidy lx indent dedent ts opened) {eol last : TokenId}
    (heol : eol ∈ lx.endOfLine) (hlast : ts.getLast? = some last) (hne : last ≠ eol) :
    Tidy lx indent dedent (ts ++ [eol]) opened := by
  obtain ⟨hindent, hdedent, heos⟩ := hlx.eol_ne heol
  refine h.snoc ?_ heos ?_ ?_
  · rw [List.count_singleton, List.count_singleton]
    simp [hindent, hdedent]
  · intro _ _ hnil
    rw [hnil] at hlast
    cases hlast
  · intro eol' heol' x hx
    cases Option.mem_unique heol heol'
    rw [hlast] at hx
    cases hx
    refine ⟨fun _ => hne, fun hblock => ?_⟩
    rcases hblock with hblock | hblock
    · exact absurd hblock hindent
    · exact absurd hblock hdedent

/-- The end of a block. -/
theorem Tidy.closeBlock (h : Tidy lx indent dedent ts (opened + 1)) (hline : AtLine lx dedent ts) :
    Tidy lx indent dedent (ts ++ [dedent]) opened := by
  have hne := hlx.indent_ne_dedent
  refine h.snoc ?_ hlx.eos_ne.2.symm (fun eol heol _ => (hlx.eol_ne heol).2.1.symm) ?_
  · rw [List.count_singleton_self, List.count_singleton]
    simp [Ne.symm hne]
  · intro eol heol x hx
    exact ⟨fun heq => absurd heq (hlx.eol_ne heol).2.1.symm, fun _ => hline eol heol x hx⟩

/-- The beginning of a block. -/
theorem Tidy.openBlock (h : Tidy lx indent dedent ts opened) (hline : AtLine lx dedent ts) :
    Tidy lx indent dedent (ts ++ [indent]) (opened + 1) := by
  have hne := hlx.indent_ne_dedent
  refine h.snoc ?_ hlx.eos_ne.1.symm (fun eol heol _ => (hlx.eol_ne heol).1.symm) ?_
  · rw [List.count_singleton_self, List.count_singleton]
    simp [hne]
  · intro eol heol x hx
    exact ⟨fun heq => absurd heq (hlx.eol_ne heol).1.symm, fun _ => hline eol heol x hx⟩

/-- Blocks that end together. -/
theorem Tidy.closeBlocks {n : Nat} (h : Tidy lx indent dedent ts (n + opened))
    (hline : AtLine lx dedent ts) :
    Tidy lx indent dedent (ts ++ List.replicate n dedent) opened ∧
      AtLine lx dedent (ts ++ List.replicate n dedent) := by
  induction n generalizing ts with
  | zero =>
    rw [List.replicate_zero, List.append_nil]
    exact ⟨by rwa [Nat.zero_add] at h, hline⟩
  | succ n ih =>
    have hfirst : Tidy lx indent dedent (ts ++ [dedent]) (n + opened) :=
      Tidy.closeBlock hlx (by rwa [Nat.add_right_comm] at h) hline
    have hafter : AtLine lx dedent (ts ++ [dedent]) := by
      intro eol _ t ht
      rw [List.getLast?_concat] at ht
      cases ht
      exact Or.inr rfl
    rw [List.replicate_succ, List.append_cons]
    exact ih hfirst hafter

end Layout

/-! ## What each step of the pass reports -/

/-- The pass has reported the tokens. -/
structure Stage (lx : Lexer) (indent dedent : TokenId) (ts : List TokenId) (s : Progress) :
    Prop where
  tidy : Tidy lx indent dedent ts s.blocks.depth
  last_eq : s.last = ts.getLast?

/-- The pass is at the start of a line. -/
def LineStart (lx : Lexer) (dedent : TokenId) (ts : List TokenId) (s : Progress) : Prop :=
  s.strayStart = none ∧ AtLine lx dedent ts

namespace Lexer

variable {lx : Lexer} {indent dedent : TokenId} {ts : List TokenId} {s : Progress}

theorem flush_eq (h : s.strayStart = none) : lx.flush s = ([], s) := by
  unfold flush
  rw [h]

/-- The end of a line is reported if there is something on the line. -/
theorem endLine_cases (lx : Lexer) (s : Progress) (len : Nat) :
    (lx.endLine s len = ([], s) ∧ ∀ eol ∈ lx.endOfLine, ∀ last ∈ s.last, last = eol) ∨
      ∃ eol ∈ lx.endOfLine, ∃ last, s.last = some last ∧ last ≠ eol ∧
        lx.endLine s len = ([.token ⟨eol, s.offset, len⟩], { s with last := some eol }) := by
  unfold endLine dueEndOfLine
  cases lx.endOfLine with
  | none => exact Or.inl ⟨rfl, by simp⟩
  | some eol =>
    cases s.last with
    | none => exact Or.inl ⟨rfl, by simp⟩
    | some last =>
      by_cases hsame : last = eol
      · exact Or.inl ⟨by simp [hsame], by simp [hsame]⟩
      · exact Or.inr ⟨eol, rfl, last, rfl, hsame, by simp [hsame]⟩

/-- A margin is reported by dedents and then an indent, as far as blocks are
closed and opened. -/
theorem shift_reported (h : lx.indentation = some (indent, dedent)) (s : Progress) (width : Nat) :
    reported (lx.shift s width).1 = List.replicate (s.blocks.line width).1.dedents dedent ++
        (if (s.blocks.line width).1.indent then [indent] else []) ∧
      (lx.shift s width).2.blocks = (s.blocks.line width).2 ∧
      (lx.shift s width).2.last = if (s.blocks.line width).1.indent then some indent
        else if (s.blocks.line width).1.dedents = 0 then s.last else some dedent := by
  unfold shift
  rw [h]
  refine ⟨?_, rfl, rfl⟩
  dsimp only
  rw [reported_append, reported_replicate_dedent]
  split
  · rfl
  · rfl

variable (hlx : HasBlocks lx indent dedent)
include hlx

/-- Stray characters are reported as an error. -/
theorem flush_stage (h : Stage lx indent dedent ts s) :
    Stage lx indent dedent (ts ++ reported (lx.flush s).1) (lx.flush s).2 ∧
      (lx.flush s).2.strayStart = none := by
  unfold flush
  split
  · next hnone => exact ⟨by simpa [reported, found] using h, hnone⟩
  · refine ⟨⟨h.tidy.plain hlx.error_notMem, ?_⟩, rfl⟩
    exact List.getLast?_concat.symm

/-- A line ends with an end-of-line token, unless there is nothing on it. -/
theorem endLine_stage (h : Stage lx indent dedent ts s) (len : Nat) :
    Stage lx indent dedent (ts ++ reported (lx.endLine s len).1) (lx.endLine s len).2 ∧
      (lx.endLine s len).2.strayStart = s.strayStart ∧
      ∀ eol ∈ lx.endOfLine, ∀ t ∈ (ts ++ reported (lx.endLine s len).1).getLast?, t = eol := by
  rcases lx.endLine_cases s len with ⟨heq, hlast⟩ | ⟨eol, heol, last, hlast, hne, heq⟩
  · rw [heq, show reported [] = [] from rfl, List.append_nil]
    rw [h.last_eq] at hlast
    exact ⟨h, rfl, hlast⟩
  · rw [heq, show reported [LexEvent.token ⟨eol, s.offset, len⟩] = [eol] from rfl,
      List.getLast?_concat]
    rw [h.last_eq] at hlast
    refine ⟨⟨h.tidy.endLine hlx heol hlast hne, List.getLast?_concat.symm⟩, rfl, ?_⟩
    intro eol' heol' t ht
    rw [← Option.mem_unique heol heol']
    exact (Option.some.inj ht).symm

/-- A margin closes and opens blocks. -/
theorem shift_stage (h : Stage lx indent dedent ts s) (hline : AtLine lx dedent ts) (width : Nat) :
    Stage lx indent dedent (ts ++ reported (lx.shift s width).1) (lx.shift s width).2 := by
  obtain ⟨kept, hbefore, hafter⟩ := s.blocks.depth_line width
  obtain ⟨hreported, hblocks, hlast⟩ := shift_reported hlx.indentation_eq s width
  generalize s.blocks.line width = shifted at hbefore hafter hreported hblocks hlast
  obtain ⟨⟨n, indents⟩, blocks⟩ := shifted
  have htidy := h.tidy
  rw [hbefore] at htidy
  obtain ⟨hclosed, hline⟩ := Tidy.closeBlocks hlx htidy hline
  refine ⟨?_, ?_⟩
  · rw [hreported, hblocks, hafter, ← List.append_assoc]
    cases indents with
    | false => simpa using hclosed
    | true => exact Tidy.openBlock hlx hclosed hline
  · rw [hreported, hlast, h.last_eq, ← List.append_assoc]
    cases indents with
    | false =>
      cases n with
      | zero => simp
      | succ n => simp [List.replicate_succ']
    | true => exact List.getLast?_concat.symm

/-- Every piece keeps the discipline, and a line break leads to the start of a
line. Only at such a place may a margin be. -/
theorem emit_stage (h : Stage lx indent dedent ts s) {p : Piece}
    (hlexeme : ∀ t u, p = .lexeme t u → t ∉ layoutTokens lx indent dedent)
    (hmargin : (∃ blanks, p = .margin blanks) → LineStart lx dedent ts s) :
    Stage lx indent dedent (ts ++ reported (lx.emit s p).1) (lx.emit s p).2 ∧
      (p.endsLine = true →
        LineStart lx dedent (ts ++ reported (lx.emit s p).1) (lx.emit s p).2) := by
  obtain ⟨hflush, hnone⟩ := flush_stage hlx h
  cases p with
  | stray c =>
    rw [show reported (lx.emit s (.stray c)).1 = [] from rfl, List.append_nil]
    exact ⟨⟨h.tidy, h.last_eq⟩, nofun⟩
  | joint u crlf => exact ⟨⟨hflush.tidy, hflush.last_eq⟩, nofun⟩
  | margin blanks =>
    obtain ⟨hstray, hline⟩ := hmargin ⟨blanks, rfl⟩
    rw [emit_eq (by simp) (by simp), flush_eq hstray]
    exact ⟨shift_stage hlx (s := s.advance _) ⟨h.tidy, h.last_eq⟩ hline _, nofun⟩
  | lineBreak crlf =>
    rw [emit_eq (by simp) (by simp), reported_append, ← List.append_assoc]
    obtain ⟨hended, hstray, hlast⟩ :=
      endLine_stage hlx hflush (Text.bytes (breakText crlf))
    refine ⟨⟨hended.tidy, hended.last_eq⟩, fun _ => ⟨hstray.trans hnone, ?_⟩⟩
    exact fun eol heol t ht => Or.inl (hlast eol heol t ht)
  | lexeme t u =>
    have htoken : reported (lx.emitPiece (lx.flush s).2 (.lexeme t u)).1 = [t] := by
      show t :: reported (innerNewlines _ u) = [t]
      rw [reported_innerNewlines]
    rw [emit_eq (by simp) (by simp), reported_append, ← List.append_assoc, htoken]
    exact ⟨⟨hflush.tidy.plain (hlexeme t u rfl), List.getLast?_concat.symm⟩, nofun⟩
  | comment u =>
    have hnothing : reported (lx.emitPiece (lx.flush s).2 (.comment u)).1 = [] :=
      reported_innerNewlines _ u
    rw [emit_eq (by simp) (by simp), reported_append, hnothing, List.append_nil]
    exact ⟨⟨hflush.tidy, hflush.last_eq⟩, nofun⟩
  | blank c =>
    rw [emit_eq (by simp) (by simp)]
    have hnothing : reported (lx.emitPiece (lx.flush s).2 (.blank c)).1 = [] := rfl
    rw [reported_append, hnothing, List.append_nil]
    exact ⟨⟨hflush.tidy, hflush.last_eq⟩, nofun⟩

/-- What is reported in the end: the last line and all blocks are closed. -/
structure Finished (lx : Lexer) (indent dedent : TokenId) (ts : List TokenId) : Prop where
  tidy : Tidy lx indent dedent ts 0
  closing : ∀ eol ∈ lx.endOfLine, ts ≠ [] →
    ∃ before n, ts = before ++ [eol] ++ List.replicate n dedent

theorem finish_finished (h : Stage lx indent dedent ts s) :
    ∃ done, ts ++ reported (lx.finish s) = done ++ [lx.endOfStream] ∧
      Finished lx indent dedent done := by
  obtain ⟨hflush, -⟩ := flush_stage hlx h
  obtain ⟨hended, -, hlast⟩ := endLine_stage hlx hflush 0
  rw [finish_eq, reported_append, reported_append, reported_append, ← List.append_assoc,
    ← List.append_assoc, ← List.append_assoc]
  generalize lx.endLine (lx.flush s).2 0 = ended at hended hlast
  generalize ts ++ reported (lx.flush s).1 ++ reported ended.1 = done at hended hlast
  have hclosing : reported (closingDedents lx ended.2) =
      List.replicate ended.2.blocks.depth dedent := by
    unfold closingDedents
    rw [hlx.indentation_eq]
    exact reported_replicate_dedent _ _
  have hline : AtLine lx dedent done := fun eol heol t ht => Or.inl (hlast eol heol t ht)
  refine ⟨_, rfl, ?_⟩
  rw [hclosing]
  refine ⟨(Tidy.closeBlocks hlx (by exact hended.tidy) hline).1, fun eol heol hne => ?_⟩
  cases hdone : done.getLast? with
  | none =>
    -- Nothing was reported, so no block is open either.
    rw [List.getLast?_eq_none_iff] at hdone
    subst hdone
    have hdepth : 0 = 0 + ended.2.blocks.depth := hended.tidy.count_eq
    rw [← Nat.zero_add ended.2.blocks.depth, ← hdepth] at hne
    exact absurd rfl hne
  | some t =>
    obtain ⟨before, hbefore⟩ := List.getLast?_eq_some_iff.mp hdone
    rw [hlast eol heol t hdone] at hbefore
    exact ⟨before, _, by rw [hbefore]⟩

/-- The whole pass keeps the discipline. -/
theorem eventsFrom_finished {ps : List Piece} {atLineStart : Bool}
    (hmargins : MarginsFirst atLineStart ps)
    (hlexemes : ∀ t u, .lexeme t u ∈ ps → t ∉ layoutTokens lx indent dedent)
    (h : Stage lx indent dedent ts s) (hstart : atLineStart = true → LineStart lx dedent ts s) :
    ∃ done, ts ++ reported (lx.eventsFrom s ps) = done ++ [lx.endOfStream] ∧
      Finished lx indent dedent done := by
  induction ps generalizing ts s atLineStart with
  | nil => exact finish_finished hlx h
  | cons p ps ih =>
    obtain ⟨hmargin, hmargins⟩ := hmargins
    have hp : ∀ t u, p = .lexeme t u → t ∉ layoutTokens lx indent dedent := fun t u heq =>
      hlexemes t u (heq ▸ List.mem_cons_self)
    obtain ⟨hnext, hline⟩ := emit_stage hlx h hp fun hblanks => hstart (hmargin hblanks)
    rw [eventsFrom, reported_append, ← List.append_assoc]
    exact ih hmargins (fun t u hmem => hlexemes t u (List.mem_cons_of_mem p hmem)) hnext hline

end Lexer

/-! ## The arrangement of a whole stream -/

section Stream

variable {lx : Lexer} {indent dedent : TokenId} (hlx : HasBlocks lx indent dedent)
  {done : List TokenId} (h : Lexer.Finished lx indent dedent done)
include hlx h

theorem paired_of_finished : Paired indent dedent (done ++ [lx.endOfStream]) := by
  obtain ⟨hindent, hdedent⟩ := hlx.eos_ne
  have heq : (done ++ [lx.endOfStream]).count dedent = (done ++ [lx.endOfStream]).count indent := by
    have := h.tidy.count_eq
    rw [List.count_append, List.count_append, List.count_singleton, List.count_singleton]
    simp [hindent, hdedent, this]
  refine ⟨fun before hbefore => ?_, heq⟩
  rcases List.prefix_concat_iff.mp hbefore with rfl | hbefore
  · exact heq.le
  · exact h.tidy.count_le before hbefore

theorem chain_of_finished {eol : TokenId} (heol : eol ∈ lx.endOfLine) :
    (done ++ [lx.endOfStream]).IsChain (Follows indent dedent eol) := by
  refine List.isChain_append.mpr ⟨h.tidy.chain eol heol, .singleton _, ?_⟩
  intro x _ y hy
  cases hy
  refine ⟨fun heq => absurd heq (hlx.eol_ne heol).2.2.symm, fun hblock => ?_⟩
  rcases hblock with hblock | hblock
  · exact absurd hblock hlx.eos_ne.1
  · exact absurd hblock hlx.eos_ne.2

omit h in
/-- Where blocks end and begin, they end first, and at most one begins. -/
theorem block_eq {eol : TokenId} (heol : eol ∈ lx.endOfLine) {block : List TokenId}
    (hchain : block.IsChain (Follows indent dedent eol))
    (hblock : ∀ t ∈ block, t = indent ∨ t = dedent) :
    ∃ n, block = List.replicate n dedent ∨ block = List.replicate n dedent ++ [indent] := by
  obtain ⟨hindent, hdedent, -⟩ := hlx.eol_ne heol
  induction block with
  | nil => exact ⟨0, Or.inl rfl⟩
  | cons x xs ih =>
    obtain ⟨hx, hxs⟩ := List.forall_mem_cons.mp hblock
    cases xs with
    | nil =>
      rcases hx with rfl | rfl
      · exact ⟨0, Or.inr rfl⟩
      · exact ⟨1, Or.inl rfl⟩
    | cons y ys =>
      obtain ⟨hfollows, hchain⟩ := List.isChain_cons_cons.mp hchain
      have hx : x = dedent := by
        rcases hfollows.2 (hxs y List.mem_cons_self) with rfl | hx'
        · rcases hx with hx | hx
          · exact absurd hx hindent
          · exact absurd hx hdedent
        · exact hx'
      obtain ⟨n, hn⟩ := ih hchain hxs
      refine ⟨n + 1, ?_⟩
      rw [hx, List.replicate_succ, List.cons_append]
      rcases hn with hn | hn
      · exact Or.inl (by rw [hn])
      · exact Or.inr (by rw [hn])

theorem lined_of_finished {eol : TokenId} (heol : eol ∈ lx.endOfLine) :
    Lined eol indent dedent lx.endOfStream (done ++ [lx.endOfStream]) where
  head_ne := by
    cases done with
    | nil => exact fun heq => (hlx.eol_ne heol).2.2 (Option.some.inj heq).symm
    | cons x xs => exact h.tidy.head_ne eol heol
  single := by
    intro before after heq
    have hchain := chain_of_finished hlx h heol
    rw [heq, List.isChain_append_cons_cons] at hchain
    exact hchain.2.1.1 rfl rfl
  blocks := by
    intro before block after heq hne hblock hbefore hafter
    have hchain := chain_of_finished hlx h heol
    rw [heq, List.append_assoc, List.isChain_append] at hchain
    obtain ⟨-, hchain, hfollows⟩ := hchain
    refine ⟨block_eq hlx heol (List.isChain_append.mp hchain).1 hblock, ?_⟩
    cases hlast : before.getLast? with
    | none => exact Or.inl (List.getLast?_eq_none_iff.mp hlast)
    | some x =>
      obtain ⟨y, ys, rfl⟩ := List.exists_cons_of_ne_nil hne
      have hx := (hfollows x hlast y rfl).2 (hblock y List.mem_cons_self)
      rcases hx with rfl | hx
      · exact Or.inr rfl
      · exact absurd hx (hbefore x hlast).2
  closing := by
    intro hne
    have hdone : done ≠ [] := fun hnil => hne (by rw [hnil]; rfl)
    obtain ⟨before, n, heq⟩ := h.closing eol heol hdone
    exact ⟨before, n, by rw [heq]⟩

end Stream

/-! ## Lexers made from tables -/

namespace Lexer

variable {lx : Lexer} {t : TokenTable} {indent dedent : TokenId}

/-- Tokens for the layout play roles. -/
theorem role_of_mem_layoutTokens (hlx : lx.MadeFrom t)
    (hindent : t.role? .indent = some indent) (hdedent : t.role? .dedent = some dedent)
    {token : TokenId} (h : token ∈ layoutTokens lx indent dedent) :
    ∃ role, role ≠ .error ∧ t.role? role = some token := by
  simp only [layoutTokens, List.mem_append, List.mem_cons, List.not_mem_nil, or_false,
    Option.mem_toList] at h
  rcases h with (rfl | rfl | rfl) | heol
  · exact ⟨.indent, by decide, hindent⟩
  · exact ⟨.dedent, by decide, hdedent⟩
  · exact ⟨.endOfStream, by decide, hlx.endOfStream⟩
  · exact ⟨.endOfLine, by decide, hlx.endOfLine.trans heol⟩

/-- The tokens that a table declares for the layout are told apart. -/
theorem hasBlocks_of_madeFrom (hlx : lx.MadeFrom t) (hfit : TokenTable.RolesFit t.tokens t.roles)
    (hindent : t.role? .indent = some indent) (hdedent : t.role? .dedent = some dedent) :
    HasBlocks lx indent dedent where
  indentation_eq := by
    rw [hlx.indentation, hindent, hdedent]
    rfl
  nodup := by
    have hne : ∀ {role role' : Role} {a b : TokenId}, t.role? role = some a →
        t.role? role' = some b → role ≠ role' → a ≠ b := by
      intro role role' a b ha hb hroles hab
      exact hroles (TokenTable.role?_inj hfit ha (hab ▸ hb))
    refine List.nodup_append.mpr ⟨?_, (by cases lx.endOfLine <;> simp), ?_⟩
    · simp only [List.nodup_cons, List.mem_cons, List.not_mem_nil, or_false, not_or]
      exact ⟨⟨hne hindent hdedent (by decide), hne hindent hlx.endOfStream (by decide)⟩,
        hne hdedent hlx.endOfStream (by decide), not_false, .nil⟩
    · intro a ha b hb
      have heol := hlx.endOfLine.trans (Option.mem_toList.mp hb)
      simp only [List.mem_cons, List.not_mem_nil, or_false] at ha
      rcases ha with rfl | rfl | rfl
      · exact hne hindent heol (by decide)
      · exact hne hdedent heol (by decide)
      · exact hne hlx.endOfStream heol (by decide)
  error_notMem := by
    intro hmem
    obtain ⟨role, hrole, hplays⟩ := role_of_mem_layoutTokens hlx hindent hdedent hmem
    exact hrole (TokenTable.role?_inj hfit hplays hlx.error)

/-- No lexeme is taken for a token of the layout. -/
theorem lexeme_notMem_layoutTokens (hlx : lx.MadeFrom t)
    (hfit : TokenTable.RolesFit t.tokens t.roles) (hindent : t.role? .indent = some indent)
    (hdedent : t.role? .dedent = some dedent) (text : Text) :
    ∀ token u, .lexeme token u ∈ lx.pieces text → token ∉ layoutTokens lx indent dedent := by
  intro token u hmem hlayout
  obtain ⟨role, -, hplays⟩ := role_of_mem_layoutTokens hlx hindent hdedent hlayout
  exact lexeme_ne_role hlx hfit hmem hplays

/-- The tokens of outlines: words in lines and blocks. -/
def outlineTable : TokenTable :=
  ⟨[.playing (.named "End") .endOfStream, .playing (.named "Error") .error,
    .playing (.named "Indent") .indent, .playing (.named "Dedent") .dedent,
    .playing (.named "Line") .endOfLine, .withLiterals (.named "Word") ["a", "b"]],
    ⟨some 0, some 1, some 2, some 3, some 4⟩⟩

end Lexer
end GrammarKit
