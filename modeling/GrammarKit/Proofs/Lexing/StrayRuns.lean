import GrammarKit.Proofs.Lexing.LongestMatch

/-!
# Runs of stray characters

A character is stray if nothing is recognized where it stands (`Unrecognized`), and stray
characters that follow each other are reported together. The pass puts the report off: it
keeps where the run began and goes on, and whatever comes next, a lexeme, a blank, a line
break, a comment, a joint or the end, has to report the run first.

The invariant (`Waits`) is that the run that is put off stands right before the offset and
what precedes it is not stray. From it follows that all errors are runs
(`exists_strayRun_of_mem`), and all runs errors (`mem_of_strayRun`). Between two of them
stands a piece that is not empty, as an empty margin is only at the front of a line
(`pairwise_errorPlaces`).

`errors_exact` puts this together for every lexer and every text.
-/
namespace GrammarKit

/-! ## Where nothing is recognized -/

/-- At the front of `c :: rest`, which follows `before`, stands no blank and no end of a line,
and neither a comment nor an escaped line break nor a token. -/
structure Unrecognized (lx : Lexer) (t : TokenTable) (before : Text) (c : Char) (rest : Text) :
    Prop where
  not_blank : c ≠ ' ' ∧ c ≠ '\t'
  not_ending : c ≠ '\n' ∧ c ≠ '\r'
  no_comment : ∀ p ∈ lx.comments, p.matchLen (before ++ c :: rest) (Text.bytes before) = .ok 0
  /-- Behind a backslash and the comment that may follow it no line ends. -/
  no_joint : lx.options.escapeNewlines = true → c = '\\' →
    lineBreak? (rest.drop (lx.commentChars (some '\\') rest)) = none
  /-- Tokens without parent are tried if they may begin with the character. -/
  no_token : ∀ id m, t.IsRoot id → lx.matcher? id = some m → m.startsWith c = true →
    m.matchLen (before ++ c :: rest) (Text.bytes before) = .ok 0

/-- A part of a text where nothing is recognized at any character, but at its end something
is, or the text is over. -/
structure UnrecognizedRun (lx : Lexer) (t : TokenTable) (text before run after : Text) : Prop where
  text_eq : text = before ++ (run ++ after)
  run_ne : run ≠ []
  each : ∀ front c back, run = front ++ c :: back →
    Unrecognized lx t (before ++ front) c (back ++ after)
  next : ∀ c rest, after = c :: rest → ¬ Unrecognized lx t (before ++ run) c rest

namespace Lexer

variable {lx : Lexer} {t : TokenTable} {before rest : Text} {c : Char}

theorem commentChars_eq_zero_iff :
    lx.commentChars before.getLast? (c :: rest) = 0 ↔
      ∀ p ∈ lx.comments, p.matchLen (before ++ c :: rest) (Text.bytes before) = .ok 0 := by
  unfold commentChars
  cases lx.comments with
  | none => simp
  | some p =>
    have hlen := Scan.patternLen_append p before (c :: rest)
    simp only [Option.elim_some, Option.mem_some_iff, forall_eq', hlen, Except.ok.injEq,
      Text.bytes_eq_zero_iff, List.take_eq_nil_iff, reduceCtorEq, or_false]

theorem joint?_eq_none_iff (rest : Text) : lx.joint? rest = none ↔
    lineBreak? (rest.drop (lx.commentChars (some '\\') rest)) = none :=
  Option.map_eq_none_iff

/-- No candidate is chosen if none that may begin here matches anything. -/
theorem best_eq_none_iff (hlx : lx.MadeFrom t) :
    lx.best before.getLast? (c :: rest) = none ↔
      ∀ id m, t.IsRoot id → lx.matcher? id = some m → m.startsWith c = true →
        m.matchLen (before ++ c :: rest) (Text.bytes before) = .ok 0 := by
  rw [best_eq_foldl_filter]
  constructor
  · intro hnone id m hroot hm hc
    rcases foldl_betterUnfiltered before.getLast? (c :: rest)
      (lx.roots.filter fun cand => cand.2.startsWith c) with ⟨w, -, hfold⟩ | ⟨hzero, -⟩
    · cases hfold.symm.trans hnone
    · have hmem : (id, m) ∈ lx.roots.filter fun cand => cand.2.startsWith c :=
        List.mem_filter.mpr ⟨hlx.mem_roots_iff.mpr ⟨hroot, hm⟩, hc⟩
      rw [Scan.matchLen_append]
      exact congrArg Except.ok (hzero (id, m) hmem)
  · intro h
    refine foldl_of_zero fun cand hcand => ?_
    obtain ⟨hmem, hc⟩ := List.mem_filter.mp hcand
    obtain ⟨hroot, hm⟩ := hlx.mem_roots_iff.mp hmem
    exact Except.ok.inj ((Scan.matchLen_append cand.2 before (c :: rest)).symm.trans
      (h cand.1 cand.2 hroot hm hc))

/-- A character is stray where nothing else is tried with success. -/
theorem piece_eq_stray (prev : Option Char) (c : Char) (rest : Text) :
    lx.piece prev c rest = .stray c ↔
      indents c = false ∧ c ≠ '\n' ∧ c ≠ '\r' ∧ lx.commentChars prev (c :: rest) = 0 ∧
        (lx.options.escapeNewlines = true → c = '\\' → lx.joint? rest = none) ∧
        lx.best prev (c :: rest) = none := by
  have hjoint : (if c = '\\' && lx.options.escapeNewlines then lx.joint? rest else none) = none ↔
      (lx.options.escapeNewlines = true → c = '\\' → lx.joint? rest = none) := by
    cases lx.options.escapeNewlines <;> simp
  constructor
  · intro h
    unfold piece at h
    split at h
    · cases h
    next hblank =>
    split at h
    · cases h
    next hnewline =>
    split at h
    · split at h
      · cases h
      · cases h
    next hreturn =>
    dsimp only at h
    split at h
    · cases h
    next hcomment =>
    split at h
    · next p hp =>
      subst h
      split at hp
      · obtain ⟨crlf, -, hstray⟩ := Option.map_eq_some_iff.mp hp
        cases hstray
      · cases hp
    next hnone =>
    split at h
    · cases h
    next hbest =>
    exact ⟨Bool.eq_false_of_not_eq_true hblank, hnewline, hreturn, not_not.mp hcomment,
      hjoint.mp hnone, hbest⟩
  · rintro ⟨hblank, hnewline, hreturn, hcomment, hnone, hbest⟩
    unfold piece
    rw [if_neg (by simp [hblank]), if_neg hnewline, if_neg hreturn]
    dsimp only
    rw [if_neg (not_not_intro hcomment), hjoint.mpr hnone]
    dsimp only
    rw [hbest]

/-- Stray characters are those where nothing is recognized. -/
theorem piece_eq_stray_iff (hlx : lx.MadeFrom t) :
    lx.piece before.getLast? c rest = .stray c ↔ Unrecognized lx t before c rest := by
  rw [piece_eq_stray, commentChars_eq_zero_iff, joint?_eq_none_iff, best_eq_none_iff hlx]
  constructor
  · rintro ⟨hblank, hnewline, hreturn, hcomment, hjoint, htoken⟩
    refine ⟨?_, ⟨hnewline, hreturn⟩, hcomment, hjoint, htoken⟩
    simpa [indents] using hblank
  · intro h
    refine ⟨?_, h.not_ending.1, h.not_ending.2, h.no_comment, h.no_joint, h.no_token⟩
    simpa [indents] using h.not_blank

end Lexer

/-! ## What is reported as an error -/

/-- The run of stray characters that an event reports. -/
def LexEvent.error? : LexEvent → Option Occurrence
  | error o => some o
  | _ => none

/-- The errors among events. -/
def errorPlaces (events : List LexEvent) : List Occurrence := events.filterMap LexEvent.error?

theorem errorPlaces_append (es fs : List LexEvent) :
    errorPlaces (es ++ fs) = errorPlaces es ++ errorPlaces fs :=
  List.filterMap_append

theorem any_isError_iff (events : List LexEvent) :
    events.any LexEvent.isError = true ↔ errorPlaces events ≠ [] := by
  induction events with
  | nil => simp [errorPlaces]
  | cons e events ih => cases e <;> simp_all [errorPlaces, LexEvent.isError, LexEvent.error?]

theorem errorPlaces_innerNewlines (offset : Nat) (text : Text) :
    errorPlaces (innerNewlines offset text) = [] := by
  induction text generalizing offset with
  | nil => rfl
  | cons c cs ih =>
    unfold innerNewlines
    rw [errorPlaces_append, ih]
    split
    · rfl
    · rfl

namespace Lexer

variable {lx : Lexer} {s : Progress}

theorem errorPlaces_endLine (s : Progress) (len : Nat) : errorPlaces (lx.endLine s len).1 = [] := by
  unfold endLine
  cases lx.dueEndOfLine s <;> rfl

theorem errorPlaces_replicate_dedent (n : Nat) (o : Occurrence) :
    errorPlaces (List.replicate n (.dedent o)) = [] :=
  List.filterMap_replicate_of_none rfl

theorem errorPlaces_shift (s : Progress) (width : Nat) : errorPlaces (lx.shift s width).1 = [] := by
  unfold shift
  cases lx.indentation with
  | none => rfl
  | some blocks =>
    dsimp only
    rw [errorPlaces_append, errorPlaces_replicate_dedent]
    split
    · rfl
    · rfl

theorem errorPlaces_closingDedents (s : Progress) : errorPlaces (closingDedents lx s) = [] := by
  unfold closingDedents
  split
  · exact errorPlaces_replicate_dedent _ _
  · rfl

theorem errorPlaces_emitPiece (s : Progress) (p : Piece) :
    errorPlaces (lx.emitPiece s p).1 = [] := by
  cases p with
  | margin blanks => exact errorPlaces_shift _ _
  | lineBreak crlf => exact errorPlaces_endLine s _
  | comment u => exact errorPlaces_innerNewlines s.offset u
  | lexeme token u => exact errorPlaces_innerNewlines s.offset u
  | _ => rfl

/-- Whatever comes behind a run reports it, and nothing else. -/
theorem errorPlaces_emit (s : Progress) {p : Piece} (hp : ∀ c, p ≠ .stray c) :
    errorPlaces (lx.emit s p).1 = errorPlaces (lx.flush s).1 := by
  cases p with
  | stray c => exact absurd rfl (hp c)
  | joint u crlf => rfl
  | _ =>
    rw [emit_eq (by simp) (by simp), errorPlaces_append, errorPlaces_emitPiece, List.append_nil]

/-- So does the end of the text. -/
theorem errorPlaces_finish (s : Progress) :
    errorPlaces (lx.finish s) = errorPlaces (lx.flush s).1 := by
  rw [finish_eq, errorPlaces_append, errorPlaces_append, errorPlaces_append, errorPlaces_endLine,
    errorPlaces_closingDedents]
  simp [errorPlaces, LexEvent.error?]

end Lexer

/-! ## Runs among pieces -/

/-- The pieces of a run of stray characters. -/
def strays (run : Text) : List Piece := run.map .stray

theorem written_strays (run : Text) : written (strays run) = run := by
  induction run with
  | nil => rfl
  | cons c run ih => exact congrArg (c :: ·) ih

theorem strays_append (run run' : Text) : strays (run ++ run') = strays run ++ strays run' :=
  List.map_append

theorem exists_getLast?_strays {run : Text} (h : run ≠ []) (earlier : List Piece) :
    ∃ c, (earlier ++ strays run).getLast? = some (.stray c) := by
  obtain ⟨front, c, rfl⟩ := (List.eq_nil_or_concat' run).resolve_left h
  refine ⟨c, ?_⟩
  rw [strays_append, ← List.append_assoc]
  exact List.getLast?_concat

/-- A run of stray characters, with none before it and none behind it. -/
structure StrayRun (ps earlier : List Piece) (run : Text) (later : List Piece) : Prop where
  pieces_eq : ps = earlier ++ (strays run ++ later)
  run_ne : run ≠ []
  first : ∀ c, earlier.getLast? ≠ some (.stray c)
  last : ∀ c, later.head? ≠ some (.stray c)

namespace Lexer

/-- The error for a run. -/
def errorAt (lx : Lexer) (earlier : List Piece) (run : Text) : Occurrence :=
  ⟨lx.error, Text.bytes (written earlier), Text.bytes run⟩

/-- The pass is behind some pieces and a run whose report it puts off. -/
structure Waits (s : Progress) (earlier : List Piece) (run : Text) : Prop where
  offset_eq : s.offset = Text.bytes (written earlier) + Text.bytes run
  strayStart_eq : s.strayStart = if run = [] then none else some (Text.bytes (written earlier))
  first : ∀ c, earlier.getLast? ≠ some (.stray c)

variable {lx : Lexer} {s : Progress} {earlier ps : List Piece} {run : Text}

theorem waits_start : Waits .start [] [] := ⟨rfl, rfl, by simp⟩

namespace Waits

/-- The report that is put off is that of the run. -/
theorem errorPlaces_flush (h : Waits s earlier run) :
    errorPlaces (lx.flush s).1 = if run = [] then [] else [lx.errorAt earlier run] := by
  have hstart := h.strayStart_eq
  by_cases hrun : run = []
  · rw [if_pos hrun] at hstart ⊢
    rw [flush_eq hstart]
    rfl
  · rw [if_neg hrun] at hstart ⊢
    unfold flush
    rw [hstart]
    dsimp only
    rw [h.offset_eq, Nat.add_sub_cancel_left]
    rfl

/-- One more stray character. -/
theorem stray (h : Waits s earlier run) (c : Char) :
    Waits (lx.emit s (.stray c)).2 earlier (run ++ [c]) := by
  refine ⟨?_, ?_, h.first⟩
  · rw [emit_offset, h.offset_eq, Text.bytes_append, Nat.add_assoc]
    rfl
  · rw [if_neg (by simp)]
    show some (s.strayStart.getD s.offset) = _
    rw [h.strayStart_eq, h.offset_eq]
    split
    · next hrun =>
      rw [hrun]
      rfl
    · rfl

/-- Behind every other piece nothing is put off. -/
theorem other (h : Waits s earlier run) {p : Piece} (hp : ∀ c, p ≠ .stray c) :
    Waits (lx.emit s p).2 (earlier ++ (strays run ++ [p])) [] := by
  refine ⟨?_, lx.emit_strayStart s hp, ?_⟩
  · rw [emit_offset, h.offset_eq, written_append, written_append, written_strays, written_cons]
    simp [written, Nat.add_assoc]
  · intro c
    rw [← List.append_assoc, List.getLast?_concat]
    exact fun heq => hp c (Option.some.inj heq)

end Waits

/-! ## Errors are runs -/

/-- The run that is put off is reported where no more stray characters follow. -/
theorem Waits.strayRun_of_mem (h : Waits s earlier run) (later : List Piece)
    (hlater : ∀ c, later.head? ≠ some (.stray c)) {o : Occurrence}
    (ho : o ∈ errorPlaces (lx.flush s).1) :
    StrayRun (earlier ++ (strays run ++ later)) earlier run later ∧ o = lx.errorAt earlier run := by
  rw [h.errorPlaces_flush] at ho
  split at ho
  · cases ho
  · next hrun => exact ⟨⟨rfl, hrun, h.first, hlater⟩, List.mem_singleton.mp ho⟩

/-- What is reported from some point on is the run that is put off there, and later ones. -/
theorem exists_strayRun_of_mem (h : Waits s earlier run) (ps : List Piece) :
    ∀ o ∈ errorPlaces (lx.eventsFrom s ps), ∃ earlier' run' later,
      StrayRun (earlier ++ (strays run ++ ps)) earlier' run' later ∧ earlier <+: earlier' ∧
        o = lx.errorAt earlier' run' := by
  induction ps generalizing s earlier run with
  | nil =>
    intro o ho
    rw [eventsFrom, errorPlaces_finish] at ho
    obtain ⟨hrun, rfl⟩ := h.strayRun_of_mem [] (by simp) ho
    exact ⟨earlier, run, [], hrun, List.prefix_rfl, rfl⟩
  | cons p ps ih =>
    intro o ho
    rw [eventsFrom, errorPlaces_append] at ho
    by_cases hp : ∃ c, p = .stray c
    · obtain ⟨c, rfl⟩ := hp
      have hlist : strays run ++ .stray c :: ps = strays (run ++ [c]) ++ ps := by
        rw [strays_append, List.append_assoc]
        rfl
      rw [hlist]
      exact ih (h.stray c) o ho
    · have hp : ∀ c, p ≠ .stray c := fun c hc => hp ⟨c, hc⟩
      rw [errorPlaces_emit s hp] at ho
      rcases List.mem_append.mp ho with ho | ho
      · obtain ⟨hrun, rfl⟩ :=
          h.strayRun_of_mem (p :: ps) (fun c hc => hp c (Option.some.inj hc)) ho
        exact ⟨earlier, run, p :: ps, hrun, List.prefix_rfl, rfl⟩
      · obtain ⟨earlier', run', later, hrun, hbefore, rfl⟩ := ih (h.other hp) o ho
        refine ⟨earlier', run', later, ?_, (List.prefix_append _ _).trans hbefore, rfl⟩
        have hlist : earlier ++ (strays run ++ p :: ps) =
            earlier ++ (strays run ++ [p]) ++ (strays [] ++ ps) := by
          simp [strays]
        rw [hlist]
        exact hrun

/-! ## Runs are errors -/

/-- Nothing is put off where the last piece is not stray. -/
theorem waits_report (hfirst : ∀ c, earlier.getLast? ≠ some (.stray c)) :
    Waits (lx.report .start earlier).2 earlier [] := by
  refine ⟨?_, ?_, hfirst⟩
  · rw [report_offset]
    exact Nat.zero_add _
  · rcases List.eq_nil_or_concat' earlier with rfl | ⟨before, p, rfl⟩
    · rfl
    · rw [report_append]
      refine lx.emit_strayStart _ fun c hc => hfirst c ?_
      rw [List.getLast?_concat, hc]

theorem Waits.report (h : Waits s earlier run) (run' : Text) :
    Waits (lx.report s (strays run')).2 earlier (run ++ run') := by
  induction run' generalizing s run with
  | nil => rwa [List.append_nil]
  | cons c run' ih =>
    rw [List.append_cons]
    exact ih (h.stray c)

/-- No run is forgotten or reported in parts. -/
theorem mem_of_strayRun {later : List Piece} (h : StrayRun ps earlier run later) :
    lx.errorAt earlier run ∈ errorPlaces (lx.eventsFrom .start ps) := by
  have hwaits : Waits (lx.report (lx.report .start earlier).2 (strays run)).2 earlier run :=
    (waits_report h.first).report run
  rw [h.pieces_eq, eventsFrom_append, eventsFrom_append, errorPlaces_append, errorPlaces_append]
  refine List.mem_append_right _ (List.mem_append_right _ ?_)
  generalize (lx.report (lx.report .start earlier).2 (strays run)).2 = s at hwaits
  have hmem : lx.errorAt earlier run ∈ errorPlaces (lx.flush s).1 := by
    rw [hwaits.errorPlaces_flush, if_neg h.run_ne]
    exact List.mem_singleton_self _
  cases later with
  | nil =>
    rw [eventsFrom, errorPlaces_finish]
    exact hmem
  | cons p later =>
    have hp : ∀ c, p ≠ .stray c := fun c hc => h.last c (congrArg some hc)
    rw [eventsFrom, errorPlaces_append, errorPlaces_emit s hp]
    exact List.mem_append_left _ hmem

/-! ## Between two runs -/

/-- A piece behind a stray character has text. -/
def TextBehindStray (p q : Piece) : Prop := (∃ c, p = .stray c) → q.text ≠ []

/-- A line is not over behind a stray character, so no margin is there. -/
theorem isChain_pieces (lx : Lexer) (text : Text) :
    (lx.pieces text).IsChain TextBehindStray := by
  have hcuts : ∀ p ∈ lx.pieces text, (∀ blanks, p ≠ .margin blanks) → p.text ≠ [] := by
    intro p hp hmargin
    obtain ⟨before, after, hcut⟩ := (pieces_cuts lx text).exists_cut hp
    exact hcut.text_ne hmargin
  have hmargins := lx.marginsFirst_piecesFrom none true text
  change MarginsFirst true (lx.pieces text) at hmargins
  generalize lx.pieces text = ps at hcuts hmargins
  generalize true = atLineStart at hmargins
  induction ps generalizing atLineStart with
  | nil => exact .nil
  | cons p ps ih =>
    obtain ⟨-, hmargins⟩ := hmargins
    obtain ⟨-, hrest⟩ := List.forall_mem_cons.mp hcuts
    refine List.isChain_cons.mpr ⟨fun q hq => ?_, ih hrest _ hmargins⟩
    rintro ⟨c, rfl⟩
    obtain ⟨ps, rfl⟩ := List.head?_eq_some_iff.mp hq
    refine hrest q List.mem_cons_self fun blanks hblanks => ?_
    exact Bool.false_ne_true (hmargins.1 ⟨blanks, hblanks⟩)

/-- What is reported behind a piece with text begins behind the run that this piece ends. -/
theorem Waits.stop_lt (h : Waits s earlier run) {p : Piece} (hp : ∀ c, p ≠ .stray c)
    (hne : p.text ≠ []) (ps : List Piece) :
    ∀ o ∈ errorPlaces (lx.eventsFrom (lx.emit s p).2 ps),
      (lx.errorAt earlier run).stop < o.start := by
  intro o ho
  obtain ⟨earlier', run', later, -, ⟨between, rfl⟩, rfl⟩ :=
    exists_strayRun_of_mem (h.other hp) ps o ho
  have hpos := Text.bytes_pos hne
  show Text.bytes (written earlier) + Text.bytes run < Text.bytes (written _)
  simp only [written_append, written_strays, written_cons, Text.bytes_append]
  omega

/-- Errors are in order and apart. -/
theorem pairwise_errorPlaces (h : Waits s earlier run)
    (hchain : (strays run ++ ps).IsChain TextBehindStray) :
    (errorPlaces (lx.eventsFrom s ps)).Pairwise fun a b => a.stop < b.start := by
  induction ps generalizing s earlier run with
  | nil =>
    rw [eventsFrom, errorPlaces_finish, h.errorPlaces_flush]
    split
    · exact .nil
    · exact List.pairwise_singleton _ _
  | cons p ps ih =>
    rw [eventsFrom, errorPlaces_append]
    by_cases hp : ∃ c, p = .stray c
    · obtain ⟨c, rfl⟩ := hp
      refine ih (h.stray c) ?_
      rwa [strays_append, List.append_assoc]
    · have hp : ∀ c, p ≠ .stray c := fun c hc => hp ⟨c, hc⟩
      obtain ⟨-, htail, hnext⟩ := List.isChain_append.mp hchain
      have hwaits : Waits (lx.emit s p).2 (earlier ++ (strays run ++ [p])) [] := h.other hp
      have hlater := ih hwaits (List.isChain_cons.mp htail).2
      rw [errorPlaces_emit s hp, h.errorPlaces_flush]
      split
      · exact hlater
      · next hrun =>
        refine List.pairwise_cons.mpr ⟨fun o ho => ?_, hlater⟩
        -- The piece that ends the run stands between it and all later ones.
        obtain ⟨c, hlast⟩ := exists_getLast?_strays hrun []
        exact h.stop_lt hp (hnext (.stray c) hlast p rfl ⟨c, rfl⟩) ps o ho

/-! ## Runs in the text -/

variable {t : TokenTable} {text : Text}

/-- Where a piece is a stray character, nothing is recognized. -/
theorem unrecognized_of_stray (hlx : lx.MadeFrom t) {c : Char} {later : List Piece}
    (h : lx.pieces text = earlier ++ .stray c :: later) :
    Unrecognized lx t (written earlier) c (written later) := by
  obtain ⟨-, hlater⟩ := pieces_eq_append h
  obtain ⟨c', rest, hrest, hpiece⟩ := exists_piece_of_piecesFrom hlater.symm (by simp)
  rw [written_cons] at hrest
  obtain ⟨rfl, rfl⟩ := List.cons.inj hrest
  exact (piece_eq_stray_iff hlx).mp hpiece

/-- A run of stray characters is where nothing is recognized, and ends where something is. -/
theorem unrecognizedRun_of_strayRun (hlx : lx.MadeFrom t) {later : List Piece}
    (h : StrayRun (lx.pieces text) earlier run later) :
    UnrecognizedRun lx t text (written earlier) run (written later) where
  text_eq := by
    obtain ⟨htext, -⟩ := pieces_eq_append h.pieces_eq
    rwa [written_append, written_strays] at htext
  run_ne := h.run_ne
  each := by
    rintro front c back rfl
    have hpieces : lx.pieces text =
        (earlier ++ strays front) ++ .stray c :: (strays back ++ later) := by
      rw [h.pieces_eq, strays_append, List.append_assoc, List.append_assoc]
      rfl
    have hunrecognized := unrecognized_of_stray hlx hpieces
    rwa [written_append, written_append, written_strays, written_strays] at hunrecognized
  next := by
    intro c rest hafter hunrecognized
    have hpieces : lx.pieces text = (earlier ++ strays run) ++ later := by
      rw [h.pieces_eq, List.append_assoc]
    obtain ⟨-, hlater⟩ := pieces_eq_append hpieces
    -- The run does not end the line, so no margin stands behind it.
    have hinside : (((earlier ++ strays run).getLast?.map Piece.endsLine).getD true) = false := by
      obtain ⟨d, hlast⟩ := exists_getLast?_strays h.run_ne earlier
      rw [hlast]
      rfl
    rw [hinside, hafter, written_append, written_strays, piecesFrom, if_neg Bool.false_ne_true,
      (piece_eq_stray_iff hlx).mpr hunrecognized] at hlater
    exact h.last c (by rw [hlater]; rfl)

/-! ## Errors among the occurrences -/

theorem errorPlaces_sublist_found (events : List LexEvent) :
    (errorPlaces events).Sublist (found events) := by
  induction events with
  | nil => exact .slnil
  | cons e events ih =>
    cases e with
    | error o => exact ih.cons_cons o
    | newline _ _ | innerNewline _ => exact ih
    | token o | dedent o => exact ih.cons o
    | indent o width => exact ih.cons o

/-- Only errors are reported with the token for errors. -/
def Told (lx : Lexer) (events : List LexEvent) : Prop :=
  (found events).filter (·.token = lx.error) = errorPlaces events

theorem Told.append {es fs : List LexEvent} (h : Told lx es) (h' : Told lx fs) :
    Told lx (es ++ fs) := by
  rw [Told, found_append, List.filter_append, errorPlaces_append, h, h']

/-- What reports other tokens has no errors. -/
theorem told_of_ne {events : List LexEvent} (hnone : errorPlaces events = [])
    (hne : ∀ o ∈ found events, o.token ≠ lx.error) : Told lx events := by
  rw [Told, hnone, List.filter_eq_nil_iff]
  exact fun o ho => by simpa using hne o ho

theorem flush_told (s : Progress) : Told lx (lx.flush s).1 := by
  unfold flush
  split
  · rfl
  · simp [Told, found, errorPlaces, LexEvent.occurrence?, LexEvent.error?]

section Told

variable (hlays : ∀ token, lx.Lays token → token ≠ lx.error)
include hlays

theorem emit_told (s : Progress) {p : Piece} (hlexeme : ∀ token u, p = .lexeme token u →
    token ≠ lx.error) : Told lx (lx.emit s p).1 := by
  have hpiece : ∀ s, Told lx (lx.emitPiece s p).1 := by
    refine fun s => told_of_ne (errorPlaces_emitPiece s p) fun o ho => ?_
    rcases emitPiece_lays s p o ho with ho | ⟨token, u, hp, rfl⟩
    · exact hlays _ ho
    · exact hlexeme token u hp
  cases p with
  | stray c => rfl
  | joint u crlf => exact flush_told s
  | _ =>
    rw [emit_eq (by simp) (by simp)]
    exact (flush_told s).append (hpiece _)

theorem finish_told (s : Progress) : Told lx (lx.finish s) := by
  rw [finish_eq]
  refine (((flush_told s).append ?_).append ?_).append ?_
  · exact told_of_ne (errorPlaces_endLine _ _) fun o ho => hlays _ (endLine_lays _ _ o ho)
  · exact told_of_ne (errorPlaces_closingDedents _) fun o ho => hlays _ (closingDedents_lays _ o ho)
  · exact told_of_ne rfl fun o ho => hlays _ (.inl (congrArg _ (List.mem_singleton.mp ho)))

theorem eventsFrom_told (s : Progress)
    (hlexemes : ∀ token u, .lexeme token u ∈ ps → token ≠ lx.error) :
    Told lx (lx.eventsFrom s ps) := by
  induction ps generalizing s with
  | nil => exact finish_told hlays s
  | cons p ps ih =>
    rw [eventsFrom]
    refine (emit_told hlays s fun token u hp => ?_).append (ih _ fun token u hmem => ?_)
    · exact hlexemes token u (hp ▸ List.mem_cons_self)
    · exact hlexemes token u (List.mem_cons_of_mem p hmem)

end Told

/-- In a lexer made from declared tokens no other token is taken for the one for errors. -/
theorem told_of_rolesFit (hlx : lx.MadeFrom t) (hfit : TokenTable.RolesFit t.tokens t.roles)
    (text : Text) : Told lx (lx.events text) := by
  refine eventsFrom_told (fun token hlays herror => ?_) .start fun token u hmem herror => ?_
  · obtain ⟨role, hrole, hplays⟩ := role_of_lays hlx hlays
    exact hrole (TokenTable.role?_inj hfit hplays (herror ▸ hlx.error))
  · exact lexeme_ne_role hlx hfit hmem (herror ▸ hlx.error)

/-! ## Errors of a text -/

/-- The errors that lexing a text reports. -/
def errors (lx : Lexer) (text : Text) : List Occurrence := errorPlaces (lx.events text)

/-- One word and nothing else. -/
def wordTable : TokenTable :=
  ⟨[.playing (.named "End") .endOfStream, .playing (.named "Error") .error,
    .withLiterals (.named "Word") ["a"]], ⟨some 0, some 1, none, none, none⟩⟩

/-- Backslashes join lines, and comments begin with a sign. -/
def joiningOptions : LexerOptions := ⟨4, true, some "#[^\n]*"⟩

/-- Two runs with a joint between them: the first backslash joins nothing. -/
def strayText : Text := ['$', '\\', '$', '\\', '\n', 'é', 'a']

end Lexer
end GrammarKit
