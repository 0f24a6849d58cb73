import GrammarKit.Lexing.Layout
import GrammarKit.Proofs.Lexing.Pieces
import Mathlib.Data.List.Chain

/-!
# Occurrences and gaps tile the text

Lexing loses nothing: the text is made of the stretches that occurrences cover
and of the gaps between them, and a gap is made of blanks, line breaks, comments
and joints (`Tiled`). So occurrences are in order and do not overlap, and the
last one is the end of the stream (`lex_tiled`).

The invariant of the pass (`Stands`) splits what lies behind the present offset
into what is reported, a gap, and a run of stray characters that is reported
only when something else comes. Each thing that lexing does moves on
(`Moves`): it reports what it passes, or adds it to the gap.
-/
namespace GrammarKit

/-- Text that lexing may skip between `before` and `after`. -/
inductive Skip (lx : Lexer) (before after : Text) : Text → Prop where
  | blank {c : Char} : c = ' ' ∨ c = '\t' ∨ c = '\r' → Skip lx before after [c]
  | lineBreak (crlf : Bool) : Skip lx before after (breakText crlf)
  /-- What the comment pattern matches here. -/
  | comment {u : Text} : u ≠ [] →
      u = (u ++ after).take (lx.commentChars before.getLast? (u ++ after)) →
      Skip lx before after u
  /-- A backslash, what the comment pattern matches after it, and a line break. -/
  | joint {u : Text} {crlf : Bool} : lx.options.escapeNewlines = true →
      u = (u ++ (breakText crlf ++ after)).take
        (lx.commentChars (some '\\') (u ++ (breakText crlf ++ after))) →
      Skip lx before after ('\\' :: u ++ breakText crlf)

/-- The text between `before` and `after` is skipped, piece by piece. -/
inductive Gap (lx : Lexer) (before : Text) : (gap after : Text) → Prop where
  | nil {after : Text} : Gap lx before [] after
  | snoc {gap u after : Text} : Gap lx before gap (u ++ after) →
      Skip lx (before ++ gap) after u → Gap lx before (gap ++ u) after

/-- The occurrences, each after a gap, make up the text that follows `before`.
The last one is the end of the stream. -/
inductive Tiled (lx : Lexer) : (before rest : Text) → List Occurrence → Prop where
  | last {before gap : Text} : Gap lx before gap [] →
      Tiled lx before gap [⟨lx.endOfStream, Text.bytes (before ++ gap), 0⟩]
  | cons {before gap lexeme rest : Text} {t : TokenId} {os : List Occurrence} :
      Gap lx before gap (lexeme ++ rest) → Tiled lx (before ++ gap ++ lexeme) rest os →
      Tiled lx before (gap ++ (lexeme ++ rest))
        (⟨t, Text.bytes (before ++ gap), Text.bytes lexeme⟩ :: os)

section Tiled

variable {lx : Lexer} {before rest : Text} {os : List Occurrence}

/-- No occurrence starts before the text that is tiled. -/
theorem Tiled.start_le (h : Tiled lx before rest os) :
    ∀ o ∈ os.head?, Text.bytes before ≤ o.start := by
  cases h with
  | last _ =>
    intro o ho
    cases ho
    simp
  | cons _ _ =>
    intro o ho
    cases ho
    simp

/-- Occurrences do not overlap and come in order. -/
theorem Tiled.isChain (h : Tiled lx before rest os) :
    os.IsChain fun a b => a.stop ≤ b.start := by
  induction h with
  | last _ => exact .singleton _
  | @cons before gap lexeme rest t os _ htail ih =>
    refine List.isChain_cons.mpr ⟨?_, ih⟩
    intro o ho
    have := htail.start_le o ho
    simp only [Text.bytes_append] at this
    simp only [Occurrence.stop, Text.bytes_append]
    exact this

/-- The end of the stream comes last, at the end of the text. -/
theorem Tiled.getLast?_eq (h : Tiled lx before rest os) :
    os.getLast? = some ⟨lx.endOfStream, Text.bytes (before ++ rest), 0⟩ := by
  induction h with
  | last _ => rfl
  | @cons before gap lexeme rest t os _ _ ih =>
    rw [List.getLast?_cons, ih]
    simp

/-- Occurrences without length fit in anywhere. -/
theorem Tiled.zeros {zs : List Occurrence} (hz : ∀ z ∈ zs, z.start = Text.bytes before ∧ z.len = 0)
    (h : Tiled lx before rest os) : Tiled lx before rest (zs ++ os) := by
  induction zs with
  | nil => exact h
  | cons z zs ih =>
    obtain ⟨⟨hstart, hlen⟩, hzs⟩ := List.forall_mem_cons.mp hz
    obtain ⟨t, start, len⟩ := z
    cases hstart
    cases hlen
    have htail : Tiled lx (before ++ [] ++ []) rest (zs ++ os) := by simpa using ih hzs
    have := Tiled.cons (t := t) .nil htail
    simpa using this

end Tiled

/-! ## The invariant -/

/-- The occurrences among events. -/
def found (events : List LexEvent) : List Occurrence := events.filterMap LexEvent.occurrence?

@[simp] theorem found_append (es fs : List LexEvent) : found (es ++ fs) = found es ++ found fs :=
  List.filterMap_append

/-- Everything is reported up to `done`, and a gap lies between there and the
present offset. -/
structure Clear (lx : Lexer) (s : Progress) (done gap after : Text) : Prop where
  offset_eq : s.offset = Text.bytes (done ++ gap)
  stray_eq : s.strayStart = none
  gap : Gap lx done gap after

/-- As `Clear`, but a run of stray characters may lie after the gap. -/
inductive Stands (lx : Lexer) (s : Progress) (done gap : Text) : (run after : Text) → Prop where
  | clear {after : Text} : Clear lx s done gap after → Stands lx s done gap [] after
  | stray {run after : Text} : s.offset = Text.bytes (done ++ gap ++ run) →
      s.strayStart = some (Text.bytes (done ++ gap)) → Gap lx done gap (run ++ after) →
      Stands lx s done gap run after

/-- Reporting `events` moves past `passed`: whatever tiles the rest, tiles all
with the occurrences among the events in front. -/
def Moves (lx : Lexer) (s' : Progress) (events : List LexEvent) (done gap passed after : Text) :
    Prop :=
  ∃ done' gap', Clear lx s' done' gap' after ∧ done' ++ gap' = done ++ gap ++ passed ∧
    ∀ os, Tiled lx done' (gap' ++ after) os →
      Tiled lx done (gap ++ (passed ++ after)) (found events ++ os)

section Moves

variable {lx : Lexer} {s s' : Progress} {events : List LexEvent} {done gap after u : Text}

/-- What is skipped goes to the gap. -/
theorem Moves.skip (hs : Clear lx s done gap (u ++ after)) (hgap : Gap lx done (gap ++ u) after)
    (hnone : found events = []) (hoffset : s'.offset = s.offset + Text.bytes u)
    (hstray : s'.strayStart = none) : Moves lx s' events done gap u after := by
  refine ⟨done, gap ++ u, ⟨?_, hstray, hgap⟩, by simp, ?_⟩
  · rw [hoffset, hs.offset_eq]
    simp [Nat.add_assoc]
  · intro os hos
    rw [hnone]
    simpa using hos

/-- A token covers what is passed. -/
theorem Moves.token {t : TokenId} (hs : Clear lx s done gap (u ++ after))
    (hfound : found events = [⟨t, s.offset, Text.bytes u⟩])
    (hoffset : s'.offset = s.offset + Text.bytes u) (hstray : s'.strayStart = none) :
    Moves lx s' events done gap u after := by
  refine ⟨done ++ gap ++ u, [], ⟨?_, hstray, .nil⟩, by simp, ?_⟩
  · rw [hoffset, hs.offset_eq]
    simp [Nat.add_assoc]
  · intro os hos
    rw [hfound, hs.offset_eq]
    exact .cons hs.gap hos

/-- Tokens without length stand where nothing is passed. -/
theorem Moves.zeros (hs : Clear lx s done gap after)
    (hz : ∀ z ∈ found events, z.start = s.offset ∧ z.len = 0) (hoffset : s'.offset = s.offset)
    (hstray : s'.strayStart = none) : Moves lx s' events done gap [] after := by
  cases hfound : found events with
  | nil =>
    refine Moves.skip (u := []) hs ?_ hfound hoffset hstray
    simpa using hs.gap
  | cons z zs =>
    rw [hfound] at hz
    obtain ⟨⟨hstart, hlen⟩, hzs⟩ := List.forall_mem_cons.mp hz
    refine ⟨done ++ gap, [], ⟨?_, hstray, .nil⟩, by simp, ?_⟩
    · rw [hoffset, hs.offset_eq]
      simp
    · intro os hos
      rw [hs.offset_eq] at hstart hzs
      obtain ⟨t, start, len⟩ := z
      cases hstart
      cases hlen
      rw [hfound]
      have htail : Tiled lx (done ++ gap ++ []) after (zs ++ os) := by
        simpa using Tiled.zeros hzs hos
      exact Tiled.cons hs.gap htail

/-- One move after the other. -/
theorem Moves.trans {events' : List LexEvent} {s'' : Progress} {v : Text}
    (h : Moves lx s' events done gap u (v ++ after))
    (h' : ∀ done' gap', done' ++ gap' = done ++ gap ++ u → Clear lx s' done' gap' (v ++ after) →
      Moves lx s'' events' done' gap' v after) :
    Moves lx s'' (events ++ events') done gap (u ++ v) after := by
  obtain ⟨done', gap', hs', heq, htile⟩ := h
  obtain ⟨done'', gap'', hs'', heq', htile'⟩ := h' done' gap' heq hs'
  refine ⟨done'', gap'', hs'', ?_, ?_⟩
  · rw [heq', heq, List.append_assoc _ u v]
  · intro os hos
    have := htile _ (htile' os hos)
    simpa using this

end Moves

/-! ## Gaps of blanks, comments and joints -/

/-- Blanks are skipped one by one. -/
theorem gap_blanks {lx : Lexer} {done gap blanks after : Text}
    (hblanks : ∀ c ∈ blanks, indents c = true) (h : Gap lx done gap (blanks ++ after)) :
    Gap lx done (gap ++ blanks) after := by
  induction blanks generalizing gap with
  | nil => simpa using h
  | cons c cs ih =>
    obtain ⟨hc, hcs⟩ := List.forall_mem_cons.mp hblanks
    have hc : c = ' ' ∨ c = '\t' := by simpa [indents] using hc
    have hskip : Skip lx (done ++ gap) (cs ++ after) [c] := .blank (by
      rcases hc with hc | hc
      · exact Or.inl hc
      · exact Or.inr (Or.inl hc))
    have := ih hcs (Gap.snoc (u := [c]) h hskip)
    simpa using this

theorem found_innerNewlines (offset : Nat) (text : Text) :
    found (innerNewlines offset text) = [] := by
  induction text generalizing offset with
  | nil => rfl
  | cons c cs ih =>
    unfold innerNewlines
    rw [found_append, ih]
    split
    · rfl
    · rfl

namespace Lexer

variable {lx : Lexer} {s : Progress} {done gap run after : Text}

/-! ## What each step of the pass does -/

/-- A run of stray characters is reported as one error. -/
theorem flush_moves (h : Stands lx s done gap run after) :
    Moves lx (lx.flush s).2 (lx.flush s).1 done gap run after := by
  cases h with
  | clear hs =>
    have heq : lx.flush s = ([], s) := by
      unfold flush
      rw [hs.stray_eq]
    rw [heq]
    exact .zeros hs (by simp [found]) rfl hs.stray_eq
  | stray hoffset hstray hgap =>
    have heq : lx.flush s = ([.error ⟨lx.error, Text.bytes (done ++ gap), Text.bytes run⟩],
        { s with strayStart := none, last := some lx.error }) := by
      have hlen : s.offset - Text.bytes (done ++ gap) = Text.bytes run := by
        rw [hoffset, Text.bytes_append (done ++ gap), Nat.add_sub_cancel_left]
      unfold flush
      rw [hstray, ← hlen]
    rw [heq]
    refine ⟨done ++ gap ++ run, [], ⟨?_, rfl, .nil⟩, by simp, ?_⟩
    · show s.offset = _
      rw [hoffset]
      simp
    · intro os hos
      exact .cons hgap hos

theorem shift_spec (lx : Lexer) (s : Progress) (width : Nat) :
    (∀ z ∈ found (lx.shift s width).1, z.start = s.offset ∧ z.len = 0) ∧
      (lx.shift s width).2.offset = s.offset ∧
      (lx.shift s width).2.strayStart = s.strayStart := by
  unfold shift
  cases lx.indentation with
  | none => exact ⟨by simp [found], rfl, rfl⟩
  | some tokens =>
    refine ⟨?_, rfl, rfl⟩
    intro z hz
    obtain ⟨e, he, hz⟩ := List.mem_filterMap.mp hz
    rcases List.mem_append.mp he with he | he
    · rw [(List.mem_replicate.mp he).2] at hz
      cases hz
      exact ⟨rfl, rfl⟩
    · split at he
      · rw [List.mem_singleton.mp he] at hz
        cases hz
        exact ⟨rfl, rfl⟩
      · cases he

/-- A line ends with an end-of-line token of the given length, or with nothing. -/
theorem endLine_spec (lx : Lexer) (s : Progress) (len : Nat) :
    ((∃ eol, found (lx.endLine s len).1 = [⟨eol, s.offset, len⟩]) ∨
      found (lx.endLine s len).1 = []) ∧
      (lx.endLine s len).2.offset = s.offset ∧
      (lx.endLine s len).2.strayStart = s.strayStart := by
  unfold endLine
  cases lx.dueEndOfLine s with
  | none => exact ⟨Or.inr rfl, rfl, rfl⟩
  | some eol => exact ⟨Or.inl ⟨eol, rfl⟩, rfl, rfl⟩

/-- After a run of stray characters lexing is where it was. -/
theorem flush_spec (lx : Lexer) (s : Progress) :
    (lx.flush s).2.offset = s.offset ∧ (lx.flush s).2.strayStart = none ∧
      (lx.flush s).2.blocks = s.blocks := by
  unfold flush
  split
  · next hnone => exact ⟨rfl, hnone, rfl⟩
  · exact ⟨rfl, rfl, rfl⟩

/-- Whatever a piece reports, it moves on by its text. -/
theorem emit_offset (lx : Lexer) (s : Progress) (p : Piece) :
    (lx.emit s p).2.offset = s.offset + Text.bytes p.text := by
  obtain ⟨hflush, -, -⟩ := flush_spec lx s
  cases p with
  | stray c => rfl
  | margin blanks =>
    obtain ⟨-, hshift, -⟩ := shift_spec lx ((lx.flush s).2.advance (Text.bytes blanks))
      (blankWidth lx.options.tabWidth blanks)
    exact hshift.trans (congrArg (· + _) hflush)
  | lineBreak crlf =>
    obtain ⟨-, hline, -⟩ := endLine_spec lx (lx.flush s).2 (Text.bytes (breakText crlf))
    exact congrArg (· + _) (hline.trans hflush)
  | joint u crlf => exact congrArg (· + _) hflush
  | blank c => exact congrArg (· + _) hflush
  | comment u => exact congrArg (· + _) hflush
  | lexeme token u => exact congrArg (· + _) hflush

/-- A piece is reported or skipped. -/
theorem emitPiece_moves {p : Piece} (hcut : Cut lx (done ++ gap) after p)
    (hs : Clear lx s done gap (p.text ++ after)) (hstray : ∀ c, p ≠ .stray c)
    (hjoint : ∀ u crlf, p ≠ .joint u crlf) :
    Moves lx (lx.emitPiece s p).2 (lx.emitPiece s p).1 done gap p.text after := by
  cases hcut with
  | @margin blanks hblanks =>
    obtain ⟨hzero, hoffset, hnone⟩ := shift_spec lx (s.advance (Text.bytes blanks))
      (blankWidth lx.options.tabWidth blanks)
    have hskip : Moves lx (s.advance (Text.bytes blanks)) [] done gap blanks ([] ++ after) :=
      .skip hs (gap_blanks hblanks hs.gap) rfl rfl hs.stray_eq
    have := hskip.trans fun done' gap' _ hs' =>
      Moves.zeros hs' hzero hoffset (hnone.trans hs'.stray_eq)
    simpa [emitPiece, Piece.text] using this
  | @blank c hc =>
    have hskip : Skip lx (done ++ gap) after [c] := by
      refine .blank ?_
      rcases hc with hc | hc
      · have : c = ' ' ∨ c = '\t' := by simpa [indents] using hc
        grind
      · exact Or.inr (Or.inr hc)
    exact .skip hs (.snoc hs.gap hskip) rfl rfl hs.stray_eq
  | lineBreak crlf =>
    obtain ⟨hfound, hoffset, hnone⟩ := endLine_spec lx s (Text.bytes (breakText crlf))
    rcases hfound with ⟨eol, hfound⟩ | hfound
    · exact .token hs hfound (congrArg (· + _) hoffset) (hnone.trans hs.stray_eq)
    · exact .skip hs (.snoc hs.gap (.lineBreak crlf)) hfound (congrArg (· + _) hoffset)
        (hnone.trans hs.stray_eq)
  | @comment u hne hmatch =>
    exact .skip hs (.snoc hs.gap (.comment hne hmatch)) (found_innerNewlines _ _) rfl hs.stray_eq
  | @joint u crlf _ _ => exact absurd rfl (hjoint u crlf)
  | @lexeme t u _ =>
    have hfound : found (lx.emitPiece s (.lexeme t u)).1 = [⟨t, s.offset, Text.bytes u⟩] := by
      show _ :: found (innerNewlines s.offset u) = _
      rw [found_innerNewlines]
    exact .token hs hfound rfl hs.stray_eq
  | stray c => exact absurd rfl (hstray c)

/-- A stray character joins the run before it. -/
theorem stands_stray {c : Char} (h : Stands lx s done gap run (c :: after)) :
    Stands lx (lx.emit s (.stray c)).2 done gap (run ++ [c]) after := by
  cases h with
  | clear hs =>
    refine .stray ?_ ?_ (by simpa using hs.gap)
    · show s.offset + c.utf8Size = _
      rw [hs.offset_eq]
      simp [Nat.add_assoc]
    · show some (s.strayStart.getD s.offset) = _
      rw [hs.stray_eq, hs.offset_eq]
      rfl
  | stray hoffset hstray hgap =>
    refine .stray ?_ ?_ (by simpa using hgap)
    · show s.offset + c.utf8Size = _
      rw [hoffset]
      simp [Nat.add_assoc]
    · show some (s.strayStart.getD s.offset) = _
      rw [hstray]
      rfl

/-- Any other piece is passed, and with it the run before it. -/
theorem emit_moves {p : Piece} (hcut : Cut lx (done ++ gap ++ run) after p)
    (h : Stands lx s done gap run (p.text ++ after)) (hstray : ∀ c, p ≠ .stray c) :
    Moves lx (lx.emit s p).2 (lx.emit s p).1 done gap (run ++ p.text) after := by
  have hflush := flush_moves h
  cases p with
  | stray c => exact absurd rfl (hstray c)
  | joint u crlf =>
    -- the newline is told first, but no occurrence belongs to it
    have hmove : Moves lx (lx.emit s (.joint u crlf)).2 ((lx.flush s).1 ++ []) done gap
        (run ++ (Piece.joint u crlf).text) after := by
      refine hflush.trans fun done' gap' heq hs' => ?_
      rw [← heq] at hcut
      cases hcut with
      | joint hesc hmatch =>
        exact .skip hs' (.snoc hs'.gap (.joint hesc hmatch)) rfl rfl hs'.stray_eq
    rw [List.append_nil] at hmove
    exact hmove
  | _ => exact hflush.trans fun done' gap' heq hs' =>
      emitPiece_moves (heq ▸ hcut) hs' hstray (by simp)

/-- The dedents that close all blocks. -/
def closingDedents (lx : Lexer) (s : Progress) : List LexEvent :=
  match lx.indentation with
  | some (_, dedent) => List.replicate s.blocks.finish.1 (.dedent ⟨dedent, s.offset, 0⟩)
  | none => []

theorem closingDedents_spec (lx : Lexer) (s : Progress) :
    ∀ z ∈ found (closingDedents lx s), z.start = s.offset ∧ z.len = 0 := by
  intro z hz
  obtain ⟨e, he, hz⟩ := List.mem_filterMap.mp hz
  unfold closingDedents at he
  split at he
  · rw [(List.mem_replicate.mp he).2] at hz
    cases hz
    exact ⟨rfl, rfl⟩
  · cases he

/-- At the end come a run of stray characters, the end of the line, those of the blocks
and that of the stream. -/
theorem finish_eq (lx : Lexer) (s : Progress) :
    lx.finish s = (lx.flush s).1 ++ (lx.endLine (lx.flush s).2 0).1 ++
      closingDedents lx (lx.endLine (lx.flush s).2 0).2 ++
      [.token ⟨lx.endOfStream, (lx.endLine (lx.flush s).2 0).2.offset, 0⟩] :=
  rfl

/-- The end of the text closes everything. -/
theorem finish_tiled (h : Stands lx s done gap run []) :
    Tiled lx done (gap ++ run) (found (lx.finish s)) := by
  obtain ⟨hline, hoffset, hnone⟩ := endLine_spec lx (lx.flush s).2 0
  generalize hended : lx.endLine (lx.flush s).2 0 = ended at hline hoffset hnone
  have hzero : ∀ z ∈ found (ended.1 ++ closingDedents lx ended.2),
      z.start = (lx.flush s).2.offset ∧ z.len = 0 := by
    intro z hz
    rw [found_append] at hz
    rcases List.mem_append.mp hz with hz | hz
    · rcases hline with ⟨eol, hline⟩ | hline
      · rw [hline] at hz
        cases List.mem_singleton.mp hz
        exact ⟨rfl, rfl⟩
      · rw [hline] at hz
        cases hz
    · rw [← hoffset]
      exact closingDedents_spec lx ended.2 z hz
  have hmove : Moves lx ended.2 ((lx.flush s).1 ++ (ended.1 ++ closingDedents lx ended.2)) done gap
      (run ++ []) [] :=
    (flush_moves h).trans fun done' gap' _ hs' =>
      Moves.zeros hs' hzero hoffset (hnone.trans hs'.stray_eq)
  obtain ⟨done', gap', hs', -, htile⟩ := hmove
  have hlast : Tiled lx done' gap' [⟨lx.endOfStream, ended.2.offset, 0⟩] := by
    rw [hs'.offset_eq]
    exact .last hs'.gap
  have hall := htile _ (by simpa using hlast)
  rw [finish_eq, hended, List.append_assoc (lx.flush s).1, found_append]
  show Tiled lx done _ (_ ++ [⟨lx.endOfStream, ended.2.offset, 0⟩])
  simpa using hall

/-- Reporting pieces tiles the text that they make up. -/
theorem eventsFrom_tiled {before rest : Text} {ps : List Piece} (hcuts : Cuts lx before rest ps)
    (hbefore : before = done ++ gap ++ run) (h : Stands lx s done gap run rest) :
    Tiled lx done (gap ++ (run ++ rest)) (found (lx.eventsFrom s ps)) := by
  induction hcuts generalizing s done gap run with
  | nil => simpa [eventsFrom] using finish_tiled h
  | @cons before after p ps hcut _ ih =>
    rw [hbefore] at hcut ih
    unfold eventsFrom
    rw [found_append]
    by_cases hstray : ∃ c, p = .stray c
    · obtain ⟨c, rfl⟩ := hstray
      have htail := ih (by simp [Piece.text]) (stands_stray h)
      simpa [emit, found, Piece.text] using htail
    · have hstray : ∀ c, p ≠ .stray c := fun c hc => hstray ⟨c, hc⟩
      obtain ⟨done', gap', hs', heq, htile⟩ := emit_moves hcut h hstray
      have htail := ih (by simp [heq]) (.clear hs')
      have := htile _ (by simpa using htail)
      simpa using this

/-- **Lexing is lossless and ordered.** The occurrences in a text and the gaps
between them make up the text, no occurrence reaches into the next one, and the
last is the end of the stream at the end of the text. -/
theorem lex_tiled (lx : Lexer) (text : Text) :
    (lx.lex text).occurrences.IsChain (fun a b => a.stop ≤ b.start) ∧
      (lx.lex text).occurrences.getLast? = some ⟨lx.endOfStream, Text.bytes text, 0⟩ ∧
      Tiled lx [] text (lx.lex text).occurrences := by
  have hstart : Stands lx .start [] [] [] text := .clear ⟨rfl, rfl, .nil⟩
  have htiled : Tiled lx [] text (lx.lex text).occurrences :=
    eventsFrom_tiled (pieces_cuts lx text) rfl hstart
  exact ⟨htiled.isChain, htiled.getLast?_eq, htiled⟩

end Lexer

end GrammarKit
