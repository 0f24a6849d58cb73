import GrammarKit.Proofs.Lexing.Covers
import GrammarKit.Proofs.Lexing.Crlf

/-!
# Line endings do not matter

A text is lexed with newlines at the ends of its lines, and with carriage returns in
front of them. If the literals go over no line end and there are no comments, the pieces
are the same but for the line breaks, and the passes over them run side by side
(`Beside`): what each step reports in the one has a counterpart in the other
(`Counterpart`), which stands at the same characters.

So the occurrences are the same tokens in the same lines and columns with the same texts
(`lex_crlf`). Only the offsets differ, and the length of an end-of-line token that covers
a line break.
-/
namespace GrammarKit

/-! ## Counterparts -/

/-- The same token at the same characters of the text, which covers a line break or none
at all. If it is the one for ends of lines, it covers a line break or nothing. -/
inductive Counterpart (lx : Lexer) (text : Text) (o o' : Occurrence) : Prop where
  | mk {before u after : Text} : text = before ++ (u ++ after) → o'.token = o.token →
      o.start = Text.bytes before → o'.start = Text.bytes (Text.crlf before) →
      o.len = Text.bytes u → o'.len = Text.bytes (Text.crlf u) →
      (o.token ∈ lx.endOfLine ∧ u = ['\n']) ∨ ('\n' ∉ u ∧ (o.token ∈ lx.endOfLine → u = [])) →
      Counterpart lx text o o'

/-- Events that report the same; where newlines are is not compared. -/
inductive EventCounterpart (lx : Lexer) (text : Text) : LexEvent → LexEvent → Prop where
  | token {o o' : Occurrence} : Counterpart lx text o o' →
      EventCounterpart lx text (.token o) (.token o')
  | indent {o o' : Occurrence} (width : Nat) : Counterpart lx text o o' →
      EventCounterpart lx text (.indent o width) (.indent o' width)
  | dedent {o o' : Occurrence} : Counterpart lx text o o' →
      EventCounterpart lx text (.dedent o) (.dedent o')
  | error {o o' : Occurrence} : Counterpart lx text o o' →
      EventCounterpart lx text (.error o) (.error o')
  | newline (n n' : Nat) (escaped : Bool) :
      EventCounterpart lx text (.newline n escaped) (.newline n' escaped)

/-- Events that report the same, one after the other. -/
abbrev Reports (lx : Lexer) (text : Text) : List LexEvent → List LexEvent → Prop :=
  List.Forall₂ (EventCounterpart lx text)

namespace Reports

variable {lx : Lexer} {text : Text} {es es' : List LexEvent}

theorem append {fs fs' : List LexEvent} (h : Reports lx text es es') (h' : Reports lx text fs fs') :
    Reports lx text (es ++ fs) (es' ++ fs') :=
  List.rel_append h h'

theorem replicate {e e' : LexEvent} (h : EventCounterpart lx text e e') (n : Nat) :
    Reports lx text (List.replicate n e) (List.replicate n e') := by
  induction n with
  | zero => exact .nil
  | succ n ih => exact .cons h ih

theorem found (h : Reports lx text es es') :
    List.Forall₂ (Counterpart lx text) (GrammarKit.found es) (GrammarKit.found es') := by
  induction h with
  | nil => exact .nil
  | cons he _ ih =>
    cases he with
    | newline => exact ih
    | token ho => exact .cons ho ih
    | indent width ho => exact .cons ho ih
    | dedent ho => exact .cons ho ih
    | error ho => exact .cons ho ih

theorem any_isError (h : Reports lx text es es') :
    es'.any LexEvent.isError = es.any LexEvent.isError := by
  induction h with
  | nil => rfl
  | cons he _ ih =>
    rw [List.any_cons, List.any_cons, ih]
    cases he <;> rfl

end Reports

/-! ## Passes side by side -/

/-- Both passes are behind `before`, have reported the same and have the same blocks open. -/
structure Level (before : Text) (s s' : Progress) : Prop where
  offset_eq : s.offset = Text.bytes before
  offset_eq' : s'.offset = Text.bytes (Text.crlf before)
  last_eq : s'.last = s.last
  blocks_eq : s'.blocks = s.blocks

/-- Level, and both have the same run of stray characters to report, or none. -/
structure Beside (before : Text) (s s' : Progress) : Prop extends Level before s s' where
  stray : (s.strayStart = none ∧ s'.strayStart = none) ∨
    ∃ done run, before = done ++ run ∧ '\n' ∉ run ∧ s.strayStart = some (Text.bytes done) ∧
      s'.strayStart = some (Text.bytes (Text.crlf done))

namespace Level

variable {before : Text} {s s' : Progress}

theorem advance (h : Level before s s') (u : Text) :
    Level (before ++ u) (s.advance (Text.bytes u)) (s'.advance (Text.bytes (Text.crlf u))) := by
  refine ⟨?_, ?_, h.last_eq, h.blocks_eq⟩
  · rw [Text.bytes_append, ← h.offset_eq]
    rfl
  · rw [Text.crlf_append, Text.bytes_append, ← h.offset_eq']
    rfl

/-- Without newlines both go on by the same bytes. -/
theorem advance_flat (h : Level before s s') {u : Text} (hu : '\n' ∉ u) :
    Level (before ++ u) (s.advance (Text.bytes u)) (s'.advance (Text.bytes u)) := by
  have hadvance := h.advance u
  rwa [Text.crlf_of_notMem hu] at hadvance

/-- With no run of stray characters to report, both are side by side. -/
theorem beside (h : Level before s s') (hs : s.strayStart = none) (hs' : s'.strayStart = none) :
    Beside before s s' :=
  ⟨h, .inl ⟨hs, hs'⟩⟩

end Level

namespace Lexer

variable {lx : Lexer} {before after u : Text} {s s' : Progress}

/-- A token without length has a counterpart at the same place. -/
theorem counterpart_empty (h : Level before s s') (token : TokenId) :
    Counterpart lx (before ++ after) ⟨token, s.offset, 0⟩ ⟨token, s'.offset, 0⟩ :=
  .mk (u := []) rfl rfl h.offset_eq h.offset_eq' rfl rfl (.inr ⟨List.not_mem_nil, fun _ => rfl⟩)

theorem mem_of_dueEndOfLine {eol : TokenId} (h : lx.dueEndOfLine s = some eol) :
    eol ∈ lx.endOfLine := by
  unfold dueEndOfLine at h
  split at h
  · next heol _ =>
    split at h
    · cases h
    · cases h
      exact heol
  · cases h

/-- A run of stray characters is reported alike. -/
theorem flush_beside (after : Text) (herror : lx.error ∉ lx.endOfLine) (h : Beside before s s') :
    Reports lx (before ++ after) (lx.flush s).1 (lx.flush s').1 ∧
      Level before (lx.flush s).2 (lx.flush s').2 := by
  unfold flush
  rcases h.stray with ⟨hs, hs'⟩ | ⟨done, run, rfl, hrun, hs, hs'⟩
  · rw [hs, hs']
    exact ⟨.nil, h.toLevel⟩
  · rw [hs, hs']
    refine ⟨.cons (.error ?_) .nil, h.offset_eq, h.offset_eq', rfl, h.blocks_eq⟩
    refine .mk (List.append_assoc done run after) rfl rfl rfl ?_ ?_
      (.inr ⟨hrun, fun heol => absurd heol herror⟩)
    · show s.offset - _ = _
      rw [h.offset_eq, Text.bytes_append]
      omega
    · show s'.offset - _ = _
      rw [h.offset_eq', Text.crlf_append, Text.bytes_append]
      omega

/-- The end of a line is reported alike. -/
theorem endLine_level (after : Text) (h : Level before s s') (hu : u = [] ∨ u = ['\n']) :
    Reports lx (before ++ (u ++ after)) (lx.endLine s (Text.bytes u)).1
        (lx.endLine s' (Text.bytes (Text.crlf u))).1 ∧
      Level before (lx.endLine s (Text.bytes u)).2
        (lx.endLine s' (Text.bytes (Text.crlf u))).2 := by
  have hdue : lx.dueEndOfLine s' = lx.dueEndOfLine s := by
    rw [dueEndOfLine, h.last_eq, dueEndOfLine]
  unfold endLine
  rw [hdue]
  cases heol : lx.dueEndOfLine s with
  | none => exact ⟨.nil, h⟩
  | some eol =>
    have heol : eol ∈ lx.endOfLine := mem_of_dueEndOfLine heol
    refine ⟨.cons (.token (.mk rfl rfl h.offset_eq h.offset_eq' rfl rfl ?_)) .nil,
      h.offset_eq, h.offset_eq', rfl, h.blocks_eq⟩
    rcases hu with rfl | rfl
    · exact .inr ⟨List.not_mem_nil, fun _ => rfl⟩
    · exact .inl ⟨heol, rfl⟩

/-- A margin opens and closes the same blocks. -/
theorem shift_level (h : Level before s s') (width : Nat) :
    Reports lx (before ++ after) (lx.shift s width).1 (lx.shift s' width).1 ∧
      Level before (lx.shift s width).2 (lx.shift s' width).2 := by
  unfold shift
  cases lx.indentation with
  | none => exact ⟨.nil, h⟩
  | some blocks =>
    obtain ⟨indent, dedent⟩ := blocks
    rw [h.blocks_eq, h.last_eq]
    refine ⟨.append (.replicate (.dedent (counterpart_empty h dedent)) _) ?_,
      h.offset_eq, h.offset_eq', rfl, rfl⟩
    split
    · exact .cons (.indent width (counterpart_empty h indent)) .nil
    · exact .nil

theorem innerNewlines_eq_nil {u : Text} (h : '\n' ∉ u) (offset : Nat) :
    innerNewlines offset u = [] := by
  induction u generalizing offset with
  | nil => rfl
  | cons c u ih =>
    obtain ⟨hc, hu⟩ := List.ne_and_not_mem_of_not_mem_cons h
    rw [innerNewlines, if_neg hc.symm, ih hu]
    rfl

/-- A piece that is no stray character is reported alike. -/
theorem emitPiece_level {p : Piece} (after : Text) (h : Level before s s') (hp : p.OneLine)
    (hlexeme : ∀ token u, p = .lexeme token u → token ∉ lx.endOfLine)
    (hstray : ∀ c, p ≠ .stray c) (hjoint : ∀ u crlf, p ≠ .joint u crlf) :
    Reports lx (before ++ (p.text ++ after)) (lx.emitPiece s p).1 (lx.emitPiece s' p.crlf).1 ∧
      Level (before ++ p.text) (lx.emitPiece s p).2 (lx.emitPiece s' p.crlf).2 := by
  cases p with
  | margin blanks =>
    rw [← List.append_assoc]
    exact shift_level (h.advance_flat hp) _
  | blank c => exact ⟨.nil, h.advance_flat hp⟩
  | lineBreak crlf =>
    cases hp
    obtain ⟨hreports, hlevel⟩ := endLine_level (u := ['\n']) after h (.inr rfl)
    exact ⟨.cons (.newline _ _ _) hreports, hlevel.advance ['\n']⟩
  | comment text =>
    have hflat : '\n' ∉ text := hp
    refine ⟨?_, h.advance_flat hflat⟩
    show Reports lx _ (innerNewlines s.offset text) (innerNewlines s'.offset text)
    rw [innerNewlines_eq_nil hflat, innerNewlines_eq_nil hflat]
    exact .nil
  | lexeme token text =>
    have hflat : '\n' ∉ text := hp
    have hlast : Level before { s with last := some token } { s' with last := some token } :=
      ⟨h.offset_eq, h.offset_eq', rfl, h.blocks_eq⟩
    refine ⟨.cons (.token ?_) ?_, hlast.advance_flat hflat⟩
    · refine .mk rfl rfl h.offset_eq h.offset_eq' rfl ?_
        (.inr ⟨hflat, fun heol => absurd heol (hlexeme token text rfl)⟩)
      exact congrArg Text.bytes (Text.crlf_of_notMem hflat).symm
    · rw [innerNewlines_eq_nil hflat, innerNewlines_eq_nil hflat]
      exact .nil
  | joint u crlf => exact absurd rfl (hjoint u crlf)
  | stray c => exact absurd rfl (hstray c)

/-- A stray character joins the same run. -/
theorem stray_beside {c : Char} (h : Beside before s s') (hc : '\n' ∉ [c]) :
    Beside (before ++ [c]) (lx.emit s (.stray c)).2 (lx.emit s' (.stray c)).2 := by
  refine ⟨⟨?_, ?_, h.last_eq, h.blocks_eq⟩, .inr ?_⟩
  · rw [emit_offset, h.offset_eq, Text.bytes_append]
    rfl
  · rw [emit_offset, h.offset_eq', Text.crlf_append, Text.crlf_of_notMem hc, Text.bytes_append]
    rfl
  · show ∃ done run, before ++ [c] = done ++ run ∧ '\n' ∉ run ∧
      some (s.strayStart.getD s.offset) = some (Text.bytes done) ∧
      some (s'.strayStart.getD s'.offset) = some (Text.bytes (Text.crlf done))
    rcases h.stray with ⟨hs, hs'⟩ | ⟨done, run, rfl, hrun, hs, hs'⟩
    · rw [hs, hs', Option.getD_none, Option.getD_none, h.offset_eq, h.offset_eq']
      exact ⟨before, [c], rfl, hc, rfl, rfl⟩
    · rw [hs, hs', Option.getD_some, Option.getD_some]
      refine ⟨done, run ++ [c], List.append_assoc done run [c], fun hmem => ?_, rfl, rfl⟩
      exact (List.mem_append.mp hmem).elim hrun hc

/-- Every piece is reported alike. -/
theorem emit_beside {p : Piece} (after : Text) (h : Beside before s s')
    (herror : lx.error ∉ lx.endOfLine) (hp : p.OneLine)
    (hlexeme : ∀ token u, p = .lexeme token u → token ∉ lx.endOfLine) :
    Reports lx (before ++ (p.text ++ after)) (lx.emit s p).1 (lx.emit s' p.crlf).1 ∧
      Beside (before ++ p.text) (lx.emit s p).2 (lx.emit s' p.crlf).2 := by
  obtain ⟨herrors, hlevel⟩ := flush_beside (p.text ++ after) herror h
  by_cases hstray : ∃ c, p = .stray c
  · obtain ⟨c, rfl⟩ := hstray
    exact ⟨.nil, stray_beside h hp⟩
  have hstray : ∀ c, p ≠ .stray c := fun c hc => hstray ⟨c, hc⟩
  by_cases hjoint : ∃ u crlf, p = .joint u crlf
  · obtain ⟨u, crlf, rfl⟩ := hjoint
    obtain ⟨rfl, rfl⟩ := hp
    refine ⟨.cons (.newline _ _ true) herrors, (hlevel.advance ['\\', '\n']).beside ?_ ?_⟩
    · exact emit_strayStart lx s (p := .joint [] false) hstray
    · exact emit_strayStart lx s' (p := .joint [] true) (by simp)
  · have hjoint : ∀ u crlf, p ≠ .joint u crlf := fun u crlf hu => hjoint ⟨u, crlf, hu⟩
    have hstray' : ∀ c, p.crlf ≠ .stray c := by cases p <;> simp_all [Piece.crlf]
    have hjoint' : ∀ u crlf, p.crlf ≠ .joint u crlf := by cases p <;> simp_all [Piece.crlf]
    obtain ⟨hreports, hpiece⟩ := emitPiece_level after hlevel hp hlexeme hstray hjoint
    have hs := emit_strayStart lx s hstray
    have hs' := emit_strayStart lx s' hstray'
    rw [emit_eq hstray hjoint] at hs ⊢
    rw [emit_eq hstray' hjoint'] at hs' ⊢
    exact ⟨herrors.append hreports, hpiece.beside hs hs'⟩

theorem closingDedents_reports (h : Level before s s') :
    Reports lx (before ++ after) (closingDedents lx s) (closingDedents lx s') := by
  unfold closingDedents
  cases lx.indentation with
  | none => exact .nil
  | some blocks =>
    dsimp only
    rw [h.blocks_eq]
    exact .replicate (.dedent (counterpart_empty h blocks.2)) _

/-- The end of the text is reported alike. -/
theorem finish_reports (h : Beside before s s') (herror : lx.error ∉ lx.endOfLine) :
    Reports lx (before ++ []) (lx.finish s) (lx.finish s') := by
  obtain ⟨herrors, hflush⟩ := flush_beside [] herror h
  obtain ⟨hline, hended⟩ := endLine_level (u := []) [] hflush (.inl rfl)
  rw [finish_eq, finish_eq]
  refine ((herrors.append hline).append (closingDedents_reports hended)).append ?_
  exact .cons (.token (counterpart_empty hended lx.endOfStream)) .nil

/-- The passes report the same. -/
theorem eventsFrom_reports {rest : Text} {ps : List Piece} (hcuts : Cuts lx before rest ps)
    (h : Beside before s s') (herror : lx.error ∉ lx.endOfLine) (hps : ∀ p ∈ ps, p.OneLine)
    (hlexemes : ∀ token u, .lexeme token u ∈ ps → token ∉ lx.endOfLine) :
    Reports lx (before ++ rest) (lx.eventsFrom s ps) (lx.eventsFrom s' (ps.map Piece.crlf)) := by
  induction hcuts generalizing s s' with
  | nil => exact finish_reports h herror
  | @cons before after p ps _ _ ih =>
    obtain ⟨hp, hps⟩ := List.forall_mem_cons.mp hps
    obtain ⟨hreports, hbeside⟩ := emit_beside after h herror hp fun token u hpu =>
      hlexemes token u (hpu ▸ List.mem_cons_self)
    have htail := ih hbeside hps fun token u hu => hlexemes token u (List.mem_cons_of_mem p hu)
    rw [List.append_assoc] at htail
    exact hreports.append htail

end Lexer

/-! ## What counterparts share -/

namespace Counterpart

variable {lx : Lexer} {text : Text} {o o' : Occurrence} {l l' : Lexed}

/-- Only an end-of-line token that covers a line break is longer. -/
theorem len_eq (h : Counterpart lx text o o') :
    o'.len = if o.token ∈ lx.endOfLine ∧ o.len = 1 then 2 else o.len := by
  obtain ⟨-, -, -, -, hlen, hlen', ⟨heol, rfl⟩ | ⟨hu, hempty⟩⟩ := h
  · rw [hlen', hlen]
    exact (if_pos ⟨heol, rfl⟩).symm
  · have hsame : o'.len = o.len := by rw [hlen', Text.crlf_of_notMem hu, hlen]
    rw [hsame, if_neg]
    rintro ⟨heol, hone⟩
    rw [hlen, hempty heol] at hone
    cases hone

/-- Lines and columns are the same, as the earlier lines do not count and no carriage
return stands in front in the same line. -/
theorem lineOf_eq (h : Counterpart lx text o o') (hl : l.newlines = Text.newlines text)
    (hl' : l'.newlines = Text.newlines (Text.crlf text)) :
    l'.lineOf o'.start = l.lineOf o.start := by
  obtain ⟨rfl, -, hstart, hstart', -⟩ := h
  rw [Text.crlf_append] at hl'
  rw [hstart, hstart', Lexed.lineOf_of_complete hl, Lexed.lineOf_of_complete hl',
    Text.count_crlf, Text.lastLine_crlf]

/-- Both cover the same characters, or show none. -/
theorem textOf_eq (h : Counterpart lx text o o') (hreturn : '\r' ∉ text) (hl : l.text = text)
    (hl' : l'.text = Text.crlf text) : ∃ u, l.textOf o = .ok u ∧ l'.textOf o' = .ok u := by
  obtain @⟨before, u, after, rfl, -, hstart, hstart', hlen, hlen', hu⟩ := h
  rw [Text.crlf_append, Text.crlf_append] at hl'
  rcases hu with ⟨-, rfl⟩ | ⟨hflat, -⟩
  · exact ⟨[], Lexed.textOf_of_layout hl hstart hlen (.inr ⟨false, rfl⟩),
      Lexed.textOf_of_layout hl' hstart' hlen' (.inr ⟨true, rfl⟩)⟩
  · rw [Text.crlf_of_notMem hflat] at hl' hlen'
    cases u with
    | nil =>
      exact ⟨[], Lexed.textOf_of_layout hl hstart hlen (.inl rfl),
        Lexed.textOf_of_layout hl' hstart' hlen' (.inl rfl)⟩
    | cons c cs =>
      have hshows : Shows (c :: cs) := by
        refine ⟨c, cs, rfl, ?_, ?_⟩
        · rintro rfl
          exact hflat List.mem_cons_self
        · rintro rfl
          exact hreturn (by simp)
      exact ⟨c :: cs, Lexed.textOf_of_shows hl hstart hlen hshows,
        Lexed.textOf_of_shows hl' hstart' hlen' hshows⟩

end Counterpart

namespace Lexer

variable {lx : Lexer} {text : Text}

/-- Without comments the index of newlines is complete. -/
theorem newlines_of_oneLine (hlx : lx.OneLine) (text : Text) :
    (lx.lex text).newlines = text.newlines := by
  refine newlines_of_flat_comments (.inr fun rest => ?_) text
  rw [commentChars_eq_zero hlx]
  exact List.not_mem_nil

/-- What is found in the two texts has counterparts. -/
theorem lex_reports {t : TokenTable} (hmade : lx.MadeFrom t)
    (hfit : TokenTable.RolesFit t.tokens t.roles) (hlx : lx.OneLine) (hreturn : '\r' ∉ text) :
    Reports lx text (lx.events text) (lx.events (Text.crlf text)) := by
  obtain ⟨hpieces, honeLine⟩ := piecesFrom_crlf hlx hreturn none none true
  have herror : lx.error ∉ lx.endOfLine := fun heol => by
    have hroles := TokenTable.role?_inj hfit (hmade.endOfLine.trans heol) hmade.error
    cases hroles
  have hlexemes : ∀ token u, .lexeme token u ∈ lx.pieces text → token ∉ lx.endOfLine :=
    fun token u hu heol => lexeme_ne_role hmade hfit hu (hmade.endOfLine.trans heol)
  have hstart : Beside [] Progress.start Progress.start := ⟨⟨rfl, rfl, rfl, rfl⟩, .inl ⟨rfl, rfl⟩⟩
  unfold events
  rw [show lx.pieces (Text.crlf text) = (lx.pieces text).map Piece.crlf from hpieces]
  exact eventsFrom_reports (pieces_cuts lx text) hstart herror honeLine hlexemes

/-- Two words in a block, the second one after an escaped newline. -/
def joined : Text := "a\n  b\\\nb\n".toList

end Lexer
end GrammarKit
