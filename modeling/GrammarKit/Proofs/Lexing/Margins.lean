import GrammarKit.Proofs.Lexing.Blocks
import GrammarKit.Proofs.Pattern.Program
import GrammarKit.Proofs.Text

/-!
# The margin of a line

Indents and dedents come from margins, and a line has at most one, at its front.
Whether it has one is found by looking over its blanks and a comment: a line that
ends there is bare (`Bare`) and leaves the blocks alone. Every other line closes
and opens blocks by the width of its blanks.

What is looked over is not all that the pass skips. A line of blanks, a comment
and more blanks is not bare, and blocks change where the blanks end, also if a
comment begins there (`blocks_of_line`).
-/
namespace GrammarKit

/-- The text that pieces make up. -/
def written (ps : List Piece) : Text := ps.flatMap Piece.text

theorem written_cons (p : Piece) (ps : List Piece) : written (p :: ps) = p.text ++ written ps := rfl

theorem written_append (ps qs : List Piece) : written (ps ++ qs) = written ps ++ written qs :=
  List.flatMap_append

theorem Cuts.written_eq {lx : Lexer} {before rest : Text} {ps : List Piece}
    (h : Cuts lx before rest ps) : written ps = rest := by
  induction h with
  | nil => rfl
  | cons _ _ ih => rw [written_cons, ih]

/-- The pieces of the first line, with the line break that ends it. -/
def firstLine : List Piece → List Piece
  | [] => []
  | p :: ps => if p.endsLine then [p] else p :: firstLine ps

/-- Only the first piece of a line can be a margin. -/
theorem MarginsFirst.ne_margin {ps : List Piece} (h : MarginsFirst false ps) :
    ∀ p ∈ firstLine ps, ∀ blanks, p ≠ .margin blanks := by
  induction ps with
  | nil => exact fun p hp => absurd hp List.not_mem_nil
  | cons p ps ih =>
    obtain ⟨hp, hps⟩ := h
    have hne : ∀ blanks, p ≠ .margin blanks := fun blanks heq => absurd (hp ⟨blanks, heq⟩) (by simp)
    rw [firstLine]
    split
    · exact List.forall_mem_singleton.mpr hne
    · next hends =>
      rw [Bool.not_eq_true] at hends
      rw [hends] at hps
      exact List.forall_mem_cons.mpr ⟨hne, ih hps⟩

/-- Whether a piece is nothing but spaces and tabs, or a comment. -/
def Piece.isIdle : Piece → Bool
  | margin _ | comment _ => true
  | blank c => indents c
  | _ => false

/-! ## The front of a line -/

/-- The spaces and tabs at the front of a line. -/
def leadBlanks (line : Text) : Text := line.takeWhile indents

namespace Lexer

variable (lx : Lexer)

/-- The comment behind the blanks of a line that follows the character `prev`. -/
def leadComment (prev : Option Char) (line : Text) : Text :=
  let after := line.drop (leadBlanks line).length
  after.take (lx.commentChars (lastChar prev (leadBlanks line)) after)

/-- What stands on a line behind its blanks and that comment. -/
def shown (prev : Option Char) (line : Text) : Text :=
  let after := line.drop (leadBlanks line).length
  after.drop (lx.commentChars (lastChar prev (leadBlanks line)) after)

/-- A line ends at the front of the text. -/
def LineEnds (text : Text) : Prop := text = [] ∨ (lineBreak? text).isSome = true

instance (text : Text) : Decidable (LineEnds text) :=
  inferInstanceAs (Decidable (text = [] ∨ (lineBreak? text).isSome = true))

/-- A line that ends behind its blanks and a comment. -/
def Bare (prev : Option Char) (line : Text) : Prop := LineEnds (lx.shown prev line)

variable {lx : Lexer} {prev : Option Char} {line : Text}

/-- Bare lines have no margin. -/
theorem margin?_eq_none (h : lx.Bare prev line) : lx.margin? prev line = none := by
  unfold margin?
  split
  · rfl
  · refine if_pos ?_
    rw [Bool.or_eq_true, List.isEmpty_iff]
    exact h

/-- The blanks of other lines are a margin. -/
theorem margin?_eq_some {blocks : TokenId × TokenId} (hblocks : lx.indentation = some blocks)
    (h : ¬ lx.Bare prev line) : lx.margin? prev line = some (leadBlanks line) := by
  unfold margin?
  rw [if_neg (by simp [hblocks])]
  refine if_neg ?_
  rw [Bool.or_eq_true, List.isEmpty_iff]
  exact h

/-- No line ends at a space or a tab. -/
theorem not_lineEnds_of_indents {c : Char} (hc : indents c = true) (rest : Text) :
    ¬ LineEnds (c :: rest) := by
  intro h
  rcases h with h | h
  · cases h
  · unfold lineBreak? at h
    split at h
    · next heq =>
      rw [(List.cons.inj heq).1] at hc
      exact absurd hc (by decide)
    · next heq =>
      rw [(List.cons.inj heq).1] at hc
      exact absurd hc (by decide)
    · cases h

/-- On other lines something stands behind the blanks. -/
theorem exists_of_not_bare (h : ¬ lx.Bare prev line) :
    ∃ c after, line.drop (leadBlanks line).length = c :: after ∧ indents c = false := by
  have hdrop : line.drop (leadBlanks line).length = line.dropWhile indents := by
    have hsplit := takeWhile_append_drop indents line
    conv_rhs at hsplit => rw [← List.takeWhile_append_dropWhile (p := indents) (l := line)]
    exact List.append_cancel_left hsplit
  rw [hdrop]
  cases hafter : line.dropWhile indents with
  | nil =>
    refine absurd (Or.inl ?_) h
    unfold shown
    rw [hdrop, hafter]
    exact List.drop_nil
  | cons c after =>
    have hc := List.head?_dropWhile_not indents line
    rw [hafter] at hc
    exact ⟨c, after, rfl, hc⟩

/-- If only blanks stand behind the comment, a line is bare if there are none. -/
theorem bare_iff_of_shown {blanks after : Text} (hshown : lx.shown prev line = blanks ++ after)
    (hblanks : ∀ c ∈ blanks, indents c = true) (hafter : LineEnds after) :
    lx.Bare prev line ↔ blanks = [] := by
  unfold Bare
  rw [hshown]
  constructor
  · intro h
    cases blanks with
    | nil => rfl
    | cons c blanks =>
      exact absurd h (not_lineEnds_of_indents (hblanks c List.mem_cons_self) _)
  · rintro rfl
    exact hafter

/-- A line of blanks is bare, unless the pattern of comments matches line breaks. -/
theorem bare_of_blanks (hcomment : '\n' ∉ lx.leadComment prev line)
    (hline : LineEnds (line.drop (leadBlanks line).length)) : lx.Bare prev line := by
  unfold Bare shown
  unfold leadComment at hcomment
  dsimp only at hcomment ⊢
  generalize line.drop (leadBlanks line).length = after at hcomment hline ⊢
  generalize lx.commentChars _ after = n at hcomment ⊢
  rcases hline with rfl | hbreak
  · exact Or.inl List.drop_nil
  · obtain ⟨crlf, hcrlf⟩ := Option.isSome_iff_exists.mp hbreak
    obtain ⟨rest, rfl⟩ := eq_append_of_lineBreak? hcrlf
    -- The comment ends before the newline.
    match crlf, n with
    | _, 0 => exact Or.inr hbreak
    | false, n + 1 => exact absurd (by simp [breakText]) hcomment
    | true, 1 => exact Or.inr rfl
    | true, n + 2 => exact absurd (by simp [breakText]) hcomment

/-! ## Reporting pieces -/

/-- What pieces report, and how far lexing has come behind them. -/
def report (lx : Lexer) (s : Progress) : List Piece → List LexEvent × Progress
  | [] => ([], s)
  | p :: ps =>
    ((lx.emit s p).1 ++ (report lx (lx.emit s p).2 ps).1, (report lx (lx.emit s p).2 ps).2)

variable {s : Progress}

/-- The report of a text goes piece by piece. -/
theorem eventsFrom_append (s : Progress) (ps qs : List Piece) :
    lx.eventsFrom s (ps ++ qs) =
      (lx.report s ps).1 ++ lx.eventsFrom (lx.report s ps).2 qs := by
  induction ps generalizing s with
  | nil => rfl
  | cons p ps ih => rw [List.cons_append, eventsFrom, ih, report, List.append_assoc]

theorem report_append (s : Progress) (ps qs : List Piece) :
    (lx.report s (ps ++ qs)).2 = (lx.report (lx.report s ps).2 qs).2 := by
  induction ps generalizing s with
  | nil => rfl
  | cons p ps ih => exact ih _

theorem report_offset (s : Progress) (ps : List Piece) :
    (lx.report s ps).2.offset = s.offset + Text.bytes (written ps) := by
  induction ps generalizing s with
  | nil => rfl
  | cons p ps ih => rw [report, ih, emit_offset, written_cons, Text.bytes_append, Nat.add_assoc]

/-! ## Lines of a text -/

/-- The first piece is cut off, and those behind it are found in what is left. -/
theorem piecesFrom_eq_cons {before text : Text} {atLineStart : Bool} {p : Piece} {ps : List Piece}
    (h : lx.piecesFrom before.getLast? atLineStart text = p :: ps) :
    ∃ after, text = p.text ++ after ∧
      ps = lx.piecesFrom (before ++ p.text).getLast? p.endsLine after := by
  have hinside : lx.piecesFrom before.getLast? false text = p :: ps → ∃ after,
      text = p.text ++ after ∧
        ps = lx.piecesFrom (before ++ p.text).getLast? p.endsLine after := by
    intro h
    cases text with
    | nil =>
      rw [piecesFrom] at h
      cases h
    | cons c rest =>
      obtain ⟨after, htext, hne, -⟩ := lx.piece_spec before c rest
      rw [piecesFrom, if_neg Bool.false_ne_true] at h
      obtain ⟨rfl, rfl⟩ := List.cons.inj h
      refine ⟨after, htext, ?_⟩
      rw [drop_of_cons_eq_append htext hne, getLast?_append_eq_lastChar]
  cases atLineStart with
  | false => exact hinside h
  | true =>
    rw [piecesFrom_lineStart] at h
    cases hmargin : lx.margin? before.getLast? text with
    | none =>
      rw [hmargin] at h
      exact hinside h
    | some blanks =>
      rw [hmargin] at h
      obtain ⟨rfl, rfl⟩ := List.cons.inj h
      refine ⟨text.drop blanks.length, (margin?_append hmargin).symm, ?_⟩
      rw [getLast?_append_eq_lastChar]
      rfl

/-- Wherever the pieces are divided, the later ones are found in what follows. -/
theorem piecesFrom_eq_append {before text : Text} {atLineStart : Bool} {earlier rest : List Piece}
    (h : lx.piecesFrom before.getLast? atLineStart text = earlier ++ rest) :
    ∃ after, text = written earlier ++ after ∧ rest = lx.piecesFrom
      (before ++ written earlier).getLast? ((earlier.getLast?.map Piece.endsLine).getD atLineStart)
      after := by
  induction earlier generalizing before text atLineStart with
  | nil => exact ⟨text, rfl, by rw [show written [] = [] from rfl, List.append_nil]; exact h.symm⟩
  | cons p earlier ih =>
    obtain ⟨after, rfl, hafter⟩ := piecesFrom_eq_cons h
    obtain ⟨after', rfl, hrest⟩ := ih hafter.symm
    refine ⟨after', by rw [written_cons, List.append_assoc], ?_⟩
    rw [hrest, written_cons, List.append_assoc, List.getLast?_cons]
    cases earlier.getLast? <;> rfl

/-- The later pieces of a text are found in what they make up. -/
theorem pieces_eq_append {text : Text} {earlier later : List Piece}
    (h : lx.pieces text = earlier ++ later) :
    text = written earlier ++ written later ∧
      later = lx.piecesFrom (written earlier).getLast?
        ((earlier.getLast?.map Piece.endsLine).getD true) (written later) := by
  have hpieces : lx.piecesFrom ([] : Text).getLast? true text = earlier ++ later := h
  obtain ⟨after, htext, hlater⟩ := piecesFrom_eq_append hpieces
  have hwritten : written later = after := by
    rw [hlater]
    exact (piecesFrom_cuts (written earlier) _ after).written_eq
  rw [hwritten]
  exact ⟨htext, hlater⟩

/-- In the pieces of a text, a line begins behind `earlier`. -/
structure LineBegins (lx : Lexer) (text : Text) (earlier rest : List Piece) : Prop where
  pieces_eq : lx.pieces text = earlier ++ rest
  starts : ∀ p ∈ earlier.getLast?, p.endsLine = true

/-- A line is cut into pieces as the first line of a text is. -/
theorem LineBegins.rest_eq {text : Text} {earlier rest : List Piece}
    (h : LineBegins lx text earlier rest) :
    text = written earlier ++ written rest ∧
      rest = lx.piecesFrom (written earlier).getLast? true (written rest) := by
  obtain ⟨htext, hrest⟩ := pieces_eq_append h.pieces_eq
  have hstart : ((earlier.getLast?.map Piece.endsLine).getD true) = true := by
    cases hlast : earlier.getLast? with
    | none => rfl
    | some p => exact h.starts p hlast
  rw [hstart] at hrest
  exact ⟨htext, hrest⟩

/-! ## Blocks -/

end Lexer

/-- Where blocks begin and end. -/
def blockPlaces (indent dedent : TokenId) (events : List LexEvent) : List Occurrence :=
  (found events).filter fun o => o.token = indent ∨ o.token = dedent

/-- The dedents and the indent of a line, at an offset. -/
def Shift.places (shift : Shift) (indent dedent : TokenId) (offset : Nat) : List Occurrence :=
  List.replicate shift.dedents ⟨dedent, offset, 0⟩ ++
    if shift.indent then [⟨indent, offset, 0⟩] else []

namespace Lexer

variable {lx : Lexer} {indent dedent : TokenId} {s : Progress}

theorem blockPlaces_append (es fs : List LexEvent) : blockPlaces indent dedent (es ++ fs) =
    blockPlaces indent dedent es ++ blockPlaces indent dedent fs := by
  rw [blockPlaces, found_append, List.filter_append]
  rfl

theorem blockPlaces_eq_nil_iff {events : List LexEvent} : blockPlaces indent dedent events = [] ↔
    ∀ t ∈ reported events, t ≠ indent ∧ t ≠ dedent := by
  unfold blockPlaces reported
  rw [List.filter_eq_nil_iff]
  simp

/-- A line is reported by its dedents and its indent. -/
theorem blockPlaces_shift (h : lx.indentation = some (indent, dedent)) (s : Progress)
    (width : Nat) :
    blockPlaces indent dedent (lx.shift s width).1 =
      (s.blocks.line width).1.places indent dedent s.offset := by
  have hfound : found (lx.shift s width).1 =
      (s.blocks.line width).1.places indent dedent s.offset := by
    unfold shift Shift.places
    rw [h]
    dsimp only
    rw [found_append, found_replicate_dedent]
    split
    · rfl
    · rfl
  unfold blockPlaces
  rw [hfound]
  refine List.filter_eq_self.mpr fun o ho => decide_eq_true ?_
  rcases List.mem_append.mp ho with ho | ho
  · rw [(List.mem_replicate.mp ho).2]
    exact Or.inr rfl
  · split at ho
    · rw [List.mem_singleton.mp ho]
      exact Or.inl rfl
    · cases ho

section Quiet

variable (hlx : HasBlocks lx indent dedent)
include hlx

omit hlx in
theorem ne_of_notMem_layoutTokens {t : TokenId} (ht : t ∉ layoutTokens lx indent dedent) :
    t ≠ indent ∧ t ≠ dedent := by
  constructor
  · rintro rfl
    exact ht (by simp [layoutTokens])
  · rintro rfl
    exact ht (by simp [layoutTokens])

/-- Stray characters are no blocks. -/
theorem flush_quiet (s : Progress) : blockPlaces indent dedent (lx.flush s).1 = [] := by
  unfold flush
  split
  · rfl
  · refine blockPlaces_eq_nil_iff.mpr ?_
    exact List.forall_mem_singleton.mpr (ne_of_notMem_layoutTokens hlx.error_notMem)

theorem endLine_quiet (s : Progress) (len : Nat) :
    blockPlaces indent dedent (lx.endLine s len).1 = [] ∧
      (lx.endLine s len).2.blocks = s.blocks := by
  rcases lx.endLine_cases s len with ⟨heq, -⟩ | ⟨eol, heol, -, -, -, heq⟩
  · rw [heq]
    exact ⟨rfl, rfl⟩
  · rw [heq]
    obtain ⟨hindent, hdedent, -⟩ := hlx.eol_ne heol
    exact ⟨blockPlaces_eq_nil_iff.mpr (List.forall_mem_singleton.mpr ⟨hindent, hdedent⟩), rfl⟩

/-- Only margins close and open blocks. -/
theorem emit_quiet (s : Progress) {p : Piece} (hmargin : ∀ blanks, p ≠ .margin blanks)
    (hlexeme : ∀ t u, p = .lexeme t u → t ∉ layoutTokens lx indent dedent) :
    blockPlaces indent dedent (lx.emit s p).1 = [] ∧ (lx.emit s p).2.blocks = s.blocks := by
  have hflush := flush_quiet hlx s
  obtain ⟨-, -, hblocks⟩ := flush_spec lx s
  cases p with
  | margin blanks => exact absurd rfl (hmargin blanks)
  | stray c => exact ⟨rfl, rfl⟩
  | joint u crlf => exact ⟨hflush, hblocks⟩
  | lineBreak crlf =>
    obtain ⟨hline, hkept⟩ := endLine_quiet hlx (lx.flush s).2 (Text.bytes (breakText crlf))
    rw [emit_eq (by simp) (by simp), blockPlaces_append, hflush]
    exact ⟨hline, hkept.trans hblocks⟩
  | lexeme t u =>
    have htoken : reported (lx.emitPiece (lx.flush s).2 (.lexeme t u)).1 = [t] := by
      show t :: reported (innerNewlines _ u) = [t]
      rw [reported_innerNewlines]
    rw [emit_eq (by simp) (by simp), blockPlaces_append, hflush]
    refine ⟨blockPlaces_eq_nil_iff.mpr ?_, hblocks⟩
    rw [htoken]
    exact List.forall_mem_singleton.mpr (ne_of_notMem_layoutTokens (hlexeme t u rfl))
  | comment u =>
    rw [emit_eq (by simp) (by simp), blockPlaces_append, hflush]
    refine ⟨blockPlaces_eq_nil_iff.mpr ?_, hblocks⟩
    rw [show reported (lx.emitPiece (lx.flush s).2 (.comment u)).1 = [] from
      reported_innerNewlines _ u]
    exact fun t ht => absurd ht List.not_mem_nil
  | blank c =>
    rw [emit_eq (by simp) (by simp), blockPlaces_append, hflush]
    exact ⟨rfl, hblocks⟩

/-- Without margins the blocks stay as they are. -/
theorem report_quiet (s : Progress) {ps : List Piece}
    (hmargins : ∀ p ∈ ps, ∀ blanks, p ≠ .margin blanks)
    (hlexemes : ∀ t u, .lexeme t u ∈ ps → t ∉ layoutTokens lx indent dedent) :
    blockPlaces indent dedent (lx.report s ps).1 = [] ∧ (lx.report s ps).2.blocks = s.blocks := by
  induction ps generalizing s with
  | nil => exact ⟨rfl, rfl⟩
  | cons p ps ih =>
    obtain ⟨hp, hps⟩ := List.forall_mem_cons.mp hmargins
    obtain ⟨hplaces, hblocks⟩ := emit_quiet hlx s hp fun t u heq =>
      hlexemes t u (heq ▸ List.mem_cons_self)
    obtain ⟨hrest, hkept⟩ := ih (lx.emit s p).2 hps fun t u hmem =>
      hlexemes t u (List.mem_cons_of_mem p hmem)
    rw [report, blockPlaces_append, hplaces, hrest]
    exact ⟨rfl, hkept.trans hblocks⟩

/-- A margin closes and opens blocks where its blanks end. -/
theorem emit_margin (s : Progress) (blanks : Text) :
    blockPlaces indent dedent (lx.emit s (.margin blanks)).1 =
        (s.blocks.line (blankWidth lx.options.tabWidth blanks)).1.places indent dedent
          (s.offset + Text.bytes blanks) ∧
      (lx.emit s (.margin blanks)).2.blocks =
        (s.blocks.line (blankWidth lx.options.tabWidth blanks)).2 := by
  have hflush := flush_quiet hlx s
  obtain ⟨hoffset, -, hblocks⟩ := flush_spec lx s
  have hat : ((lx.flush s).2.advance (Text.bytes blanks)).offset = s.offset + Text.bytes blanks :=
    congrArg (· + _) hoffset
  have hkept : ((lx.flush s).2.advance (Text.bytes blanks)).blocks = s.blocks := hblocks
  obtain ⟨-, hshift, -⟩ := shift_reported hlx.indentation_eq
    ((lx.flush s).2.advance (Text.bytes blanks)) (blankWidth lx.options.tabWidth blanks)
  have hplaces := blockPlaces_shift hlx.indentation_eq
    ((lx.flush s).2.advance (Text.bytes blanks)) (blankWidth lx.options.tabWidth blanks)
  rw [hkept] at hshift hplaces
  rw [hat] at hplaces
  rw [emit_eq (by simp) (by simp), blockPlaces_append, hflush]
  exact ⟨hplaces, hshift⟩

end Quiet

/-! ## Where blocks change -/

/-- The offset of the first thing on a line that is neither a space or a tab nor
in a comment, or where a line without such a thing ends. -/
def firstNotable (earlier rest : List Piece) : Nat :=
  Text.bytes (written (earlier ++ (firstLine rest).takeWhile Piece.isIdle))

/-- A piece that begins with neither a space nor a tab is idle if it is a comment. -/
theorem isIdle_piece_iff (lx : Lexer) (before rest : Text) {c : Char} (hc : indents c = false) :
    (lx.piece before.getLast? c rest).isIdle = true ↔
      ∃ u, lx.piece before.getLast? c rest = .comment u := by
  obtain ⟨after, htext, -, -⟩ := lx.piece_spec before c rest
  rcases lx.piece_cases before.getLast? c rest with ⟨d, h⟩ | ⟨crlf, h⟩ | ⟨u, h⟩ | ⟨u, crlf, h⟩ |
    ⟨b, -, h⟩ | ⟨-, h⟩
  case inl =>
    rw [h] at htext ⊢
    have hd : c = d := (List.cons.inj htext).1
    simp [Piece.isIdle, ← hd, hc]
  all_goals
    rw [h]
    simp [Piece.isIdle]

/-- Behind a margin the first thing on the line comes at once, unless a comment
does. -/
theorem firstNotable_margin (lx : Lexer) (earlier : List Piece) (blanks before rest : Text)
    {c : Char} (hc : indents c = false) :
    let ps := .margin blanks :: lx.piecesFrom before.getLast? false (c :: rest)
    Text.bytes (written earlier ++ blanks) ≤ firstNotable earlier ps ∧
      (Text.bytes (written earlier ++ blanks) = firstNotable earlier ps ↔
        ∀ u, (firstLine ps)[1]? ≠ some (.comment u)) := by
  obtain ⟨-, -, hne, -⟩ := lx.piece_spec before c rest
  have hidle := isIdle_piece_iff lx before rest hc
  rw [piecesFrom, if_neg Bool.false_ne_true]
  dsimp only
  generalize lx.piece before.getLast? c rest = q at hne hidle ⊢
  generalize lx.piecesFrom _ _ _ = more
  obtain ⟨line, hline⟩ : ∃ line, firstLine (q :: more) = q :: line := by
    rw [firstLine]
    split
    · exact ⟨[], rfl⟩
    · exact ⟨firstLine more, rfl⟩
  have hfirst : firstLine (.margin blanks :: q :: more) = .margin blanks :: q :: line :=
    congrArg (Piece.margin blanks :: ·) hline
  have hnotable : firstNotable earlier (.margin blanks :: q :: more) =
      Text.bytes (written earlier ++ blanks) +
        Text.bytes (written ((q :: line).takeWhile Piece.isIdle)) := by
    unfold firstNotable
    rw [hfirst, List.takeWhile_cons_of_pos rfl, written, List.flatMap_append]
    simp only [written, List.flatMap_cons, Piece.text, Text.bytes_append, Nat.add_assoc]
  rw [hnotable, hfirst]
  refine ⟨Nat.le_add_right _ _, ?_⟩
  have hsecond : (∀ u, (Piece.margin blanks :: q :: line)[1]? ≠ some (.comment u)) ↔
      q.isIdle = false := by
    rw [← Bool.not_eq_true, hidle]
    simp
  rw [hsecond]
  cases hq : q.isIdle with
  | false => simp [hq, written]
  | true =>
    have hpos := Text.bytes_pos hne
    have hidle : 0 < Text.bytes (written ((q :: line).takeWhile Piece.isIdle)) := by
      rw [List.takeWhile_cons_of_pos hq, written_cons, Text.bytes_append]
      omega
    simp only [Bool.true_eq_false, iff_false]
    omega

/-! ## The blocks of a line -/

theorem firstLine_append_drop (ps : List Piece) :
    firstLine ps ++ ps.drop (firstLine ps).length = ps := by
  induction ps with
  | nil => rfl
  | cons p ps ih =>
    rw [firstLine]
    split
    · rfl
    · exact congrArg (p :: ·) ih

section Line

variable (hlx : HasBlocks lx indent dedent) {text : Text} {earlier rest : List Piece}
  (hlexemes : ∀ t u, .lexeme t u ∈ lx.pieces text → t ∉ layoutTokens lx indent dedent)
  (hline : LineBegins lx text earlier rest)
include hline

omit hlexemes in
theorem mem_pieces_of_mem_firstLine {p : Piece} (hp : p ∈ firstLine rest) : p ∈ lx.pieces text := by
  rw [hline.pieces_eq, ← firstLine_append_drop rest]
  exact List.mem_append_right _ (List.mem_append_left _ hp)

include hlx hlexemes

/-- A bare line changes no blocks. -/
theorem report_bare (hbare : lx.Bare (written earlier).getLast? (written rest)) (s : Progress) :
    blockPlaces indent dedent (lx.report s (firstLine rest)).1 = [] ∧
      (lx.report s (firstLine rest)).2.blocks = s.blocks := by
  have hrest := hline.rest_eq.2
  rw [piecesFrom_lineStart, margin?_eq_none hbare] at hrest
  have hmargins : MarginsFirst false rest := by
    rw [hrest]
    exact lx.marginsFirst_piecesFrom _ _ _
  exact report_quiet hlx s hmargins.ne_margin fun t u hmem =>
    hlexemes t u (mem_pieces_of_mem_firstLine hline hmem)

/-- Every other line changes them by its blanks. -/
theorem report_not_bare (hbare : ¬ lx.Bare (written earlier).getLast? (written rest))
    {s : Progress} (hs : s.offset = Text.bytes (written earlier)) :
    let blanks := leadBlanks (written rest)
    let place := Text.bytes (written earlier ++ blanks)
    let shifted := s.blocks.line (blankWidth lx.options.tabWidth blanks)
    blockPlaces indent dedent (lx.report s (firstLine rest)).1 =
        shifted.1.places indent dedent place ∧
      (lx.report s (firstLine rest)).2.blocks = shifted.2 ∧
      place ≤ firstNotable earlier rest ∧
      (place = firstNotable earlier rest ↔ ∀ u, (firstLine rest)[1]? ≠ some (.comment u)) := by
  dsimp only
  generalize hblanks : leadBlanks (written rest) = blanks
  -- What is on the line behind the blanks begins with no blank.
  obtain ⟨c, after, hafter, hc⟩ := exists_of_not_bare hbare
  rw [hblanks] at hafter
  have hrest := hline.rest_eq.2
  rw [piecesFrom_lineStart, margin?_eq_some hlx.indentation_eq hbare, hblanks] at hrest
  dsimp only at hrest
  rw [hafter, ← getLast?_append_eq_lastChar] at hrest
  generalize hps : lx.piecesFrom (written earlier ++ blanks).getLast? false (c :: after) = ps
    at hrest
  have hfirst : firstLine rest = .margin blanks :: firstLine ps := by
    rw [hrest]
    rfl
  obtain ⟨hplaces, hblocks⟩ := emit_margin hlx s blanks
  have hmargins : MarginsFirst false ps := by
    rw [← hps]
    exact lx.marginsFirst_piecesFrom _ _ _
  have hpsLexemes : ∀ t u, .lexeme t u ∈ firstLine ps → t ∉ layoutTokens lx indent dedent := by
    intro t u hmem
    refine hlexemes t u (mem_pieces_of_mem_firstLine hline ?_)
    rw [hfirst]
    exact List.mem_cons_of_mem _ hmem
  obtain ⟨hquiet, hkept⟩ :=
    report_quiet hlx (lx.emit s (.margin blanks)).2 hmargins.ne_margin hpsLexemes
  have hnotable := firstNotable_margin lx earlier blanks (written earlier ++ blanks) after hc
  rw [hps, ← hrest] at hnotable
  refine ⟨?_, ?_, hnotable⟩
  · rw [hfirst, report, blockPlaces_append, hplaces, hquiet, List.append_nil, hs, Text.bytes_append]
  · rw [hfirst, report]
    exact hkept.trans hblocks

end Line

/-- **What feeds the blocks.** A line that ends behind its blanks and a comment
reports no indents and dedents and leaves the blocks as they are. So does a line
of blanks, if the comment pattern matches no newline there. But a line of blanks,
a comment and more blanks is no such line. All other lines close and open blocks
by the width of their blanks, where the blanks end: at the first thing on the line
that is neither blank nor in a comment, except if a comment begins there. -/
theorem blocks_of_line {decls : List TokenDecl} {t : TokenTable} {options : LexerOptions}
    (ht : TokenTable.ofDecls decls = .ok t) (hlx : ofTable t options = .ok lx)
    (hindent : t.role? .indent = some indent) (hdedent : t.role? .dedent = some dedent)
    {text : Text} {earlier rest : List Piece} (hline : LineBegins lx text earlier rest) :
    let start := (lx.report .start earlier).2
    let fed := lx.report start (firstLine rest)
    let prev := (written earlier).getLast?
    let line := written rest
    let place := Text.bytes (written earlier ++ leadBlanks line)
    let shifted := start.blocks.line (blankWidth lx.options.tabWidth (leadBlanks line))
    lx.events text = (lx.report .start earlier).1 ++
        (fed.1 ++ lx.eventsFrom fed.2 (rest.drop (firstLine rest).length)) ∧
      (lx.Bare prev line → blockPlaces indent dedent fed.1 = [] ∧ fed.2.blocks = start.blocks) ∧
      ('\n' ∉ lx.leadComment prev line → LineEnds (line.drop (leadBlanks line).length) →
        lx.Bare prev line) ∧
      (∀ blanks after, lx.shown prev line = blanks ++ after → (∀ c ∈ blanks, indents c = true) →
        LineEnds after → (lx.Bare prev line ↔ blanks = [])) ∧
      (¬ lx.Bare prev line →
        blockPlaces indent dedent fed.1 = shifted.1.places indent dedent place ∧
          fed.2.blocks = shifted.2 ∧ place ≤ firstNotable earlier rest ∧
          (place = firstNotable earlier rest ↔
            ∀ u, (firstLine rest)[1]? ≠ some (.comment u))) := by
  have hfit := TokenTable.rolesFit_ofDecls ht
  have hmade := madeFrom_ofTable hlx
  have hblocks := hasBlocks_of_madeFrom hmade hfit hindent hdedent
  have hlexemes := lexeme_notMem_layoutTokens hmade hfit hindent hdedent text
  refine ⟨?_, fun hbare => report_bare hblocks hlexemes hline hbare _, bare_of_blanks,
    fun blanks after hshown => bare_iff_of_shown hshown, fun hbare => ?_⟩
  · rw [events, hline.pieces_eq, eventsFrom_append]
    conv_lhs => rw [← firstLine_append_drop rest, eventsFrom_append]
  · refine report_not_bare hblocks hlexemes hline hbare ?_
    rw [report_offset]
    exact Nat.zero_add _

/-! ## A comment in front -/

/-- If its pattern reads no newlines, a comment is on one line. -/
theorem newline_notMem_comment
    (h : ∀ p ∈ lx.comments, ∀ n ∈ p.program.nodes, n.readsNewline = false) (prev : Option Char)
    (rest : Text) : '\n' ∉ rest.take (lx.commentChars prev rest) := by
  unfold commentChars
  cases hcomments : lx.comments with
  | none => exact List.not_mem_nil
  | some p => exact Pattern.newline_notMem_match (h p hcomments) prev rest

/-- A text whose first line is not bare begins with a margin. -/
theorem pieces_of_not_bare {blocks : TokenId × TokenId} (hblocks : lx.indentation = some blocks)
    {text : Text} (h : ¬ lx.Bare none text) :
    lx.pieces text = .margin (leadBlanks text) ::
      lx.piecesFrom (lastChar none (leadBlanks text)) false
        (text.drop (leadBlanks text).length) := by
  rw [pieces, piecesFrom_lineStart, margin?_eq_some hblocks h]

/-- The tokens of words in blocks. -/
def blockTable : TokenTable :=
  ⟨[.playing (.named "End") .endOfStream, .playing (.named "Error") .error,
    .playing (.named "Indent") .indent, .playing (.named "Dedent") .dedent,
    .withLiterals (.named "Word") ["a", "b"]],
    ⟨some 0, some 1, some 2, some 3, none⟩⟩

/-- Comments stand between two signs on one line. -/
def blockComments : LexerOptions := ⟨4, false, some "#[^#\n]*#"⟩

/-- A blank, a comment and a blank. -/
def blankLine : Text := [' ', '#', 'c', '#', ' ']

/-- A blank, a comment and a word. -/
def wordLine : Text := [' ', '#', 'c', '#', 'a']

/-- What the lexer of these tokens sees and finds on the two lines. -/
theorem exists_blockLexer : ∃ lx, ofTable blockTable blockComments = .ok lx ∧
    (∀ prev (rest : Text), '\n' ∉ rest.take (lx.commentChars prev rest)) ∧
    lx.leadComment none blankLine = ['#', 'c', '#'] ∧ lx.shown none blankLine = [' '] ∧
    lx.pieces blankLine = [.margin [' '], .comment ['#', 'c', '#'], .blank ' '] ∧
    (lx.lex blankLine).occurrences = [⟨2, 1, 0⟩, ⟨3, 5, 0⟩, ⟨0, 5, 0⟩] ∧
    lx.leadComment none wordLine = ['#', 'c', '#'] ∧ lx.shown none wordLine = ['a'] ∧
    (lx.lex wordLine).occurrences = [⟨2, 1, 0⟩, ⟨4, 4, 1⟩, ⟨3, 5, 0⟩, ⟨0, 5, 0⟩] := by
  have heval : (ofTable blockTable blockComments).map (fun lx =>
      (lx.indentation,
        lx.comments.map (fun p => p.program.nodes.all fun n => !n.readsNewline),
        (lx.commentChars (some ' ') ['#', 'c', '#', ' '],
          lx.piecesFrom (some ' ') false ['#', 'c', '#', ' '],
          found (lx.eventsFrom .start [.margin [' '], .comment ['#', 'c', '#'], .blank ' '])),
        (lx.commentChars (some ' ') ['#', 'c', '#', 'a'],
          lx.piecesFrom (some ' ') false ['#', 'c', '#', 'a'],
          found (lx.eventsFrom .start
            [.margin [' '], .comment ['#', 'c', '#'], .lexeme 4 ['a']])))) =
      .ok (some (2, 3), some true,
        (3, [.comment ['#', 'c', '#'], .blank ' '], [⟨2, 1, 0⟩, ⟨3, 5, 0⟩, ⟨0, 5, 0⟩]),
        (3, [.comment ['#', 'c', '#'], .lexeme 4 ['a']],
          [⟨2, 1, 0⟩, ⟨4, 4, 1⟩, ⟨3, 5, 0⟩, ⟨0, 5, 0⟩])) := by cbv
  cases hlx : ofTable blockTable blockComments with
  | error e =>
    rw [hlx] at heval
    cases heval
  | ok lx =>
    rw [hlx] at heval
    simp only [Except.map, Except.ok.injEq, Prod.mk.injEq] at heval
    obtain ⟨hblocks, hreads, ⟨hblank, hblanks, hblankFound⟩, hword, hwords, hwordFound⟩ := heval
    have hflat : ∀ p ∈ lx.comments, ∀ n ∈ p.program.nodes, n.readsNewline = false := by
      intro p hp n hn
      obtain ⟨q, hq, hall⟩ := Option.map_eq_some_iff.mp hreads
      cases Option.mem_unique hp hq
      simpa using Array.all_eq_true_iff_forall_mem.mp hall n hn
    have hshownBlank : lx.shown none blankLine = [' '] := congrArg (List.drop · _) hblank
    have hshownWord : lx.shown none wordLine = ['a'] := congrArg (List.drop · _) hword
    have hpiecesBlank : lx.pieces blankLine = _ :=
      (pieces_of_not_bare hblocks (by rw [Bare, hshownBlank]; decide)).trans (congrArg _ hblanks)
    have hpiecesWord : lx.pieces wordLine = _ :=
      (pieces_of_not_bare hblocks (by rw [Bare, hshownWord]; decide)).trans (congrArg _ hwords)
    refine ⟨lx, rfl, newline_notMem_comment hflat, congrArg (List.take · _) hblank, hshownBlank,
      hpiecesBlank, ?_, congrArg (List.take · _) hword, hshownWord, ?_⟩
    · show found (lx.eventsFrom .start (lx.pieces blankLine)) = _
      rw [hpiecesBlank]
      exact hblankFound
    · show found (lx.eventsFrom .start (lx.pieces wordLine)) = _
      rw [hpiecesWord]
      exact hwordFound

/-- Behind the comment stands only a blank, but a block begins in front of it. -/
theorem blocks_of_blankLine : ∃ lx, ofTable blockTable blockComments = .ok lx ∧
    ∃ rest, LineBegins lx blankLine [] rest ∧ ¬ lx.Bare none blankLine ∧
      blockPlaces 2 3 (lx.report .start (firstLine rest)).1 = [⟨2, 1, 0⟩] ∧
      firstNotable [] rest = 5 := by
  obtain ⟨lx, hlx, -, -, hshown, hpieces, -⟩ := exists_blockLexer
  have ht : TokenTable.ofDecls blockTable.tokens = .ok blockTable := by cbv
  have hline : LineBegins lx blankLine []
      [.margin [' '], .comment ['#', 'c', '#'], .blank ' '] := ⟨hpieces, by simp⟩
  obtain ⟨-, -, -, hblanks, hother⟩ := blocks_of_line ht hlx rfl rfl hline
  have hbare : ¬ lx.Bare none blankLine := by
    have hiff : lx.Bare none blankLine ↔ [' '] = [] :=
      hblanks [' '] [] (hshown.trans (List.append_nil [' ']).symm) (by simp [indents]) (Or.inl rfl)
    exact fun h => List.cons_ne_nil ' ' [] (hiff.mp h)
  obtain ⟨hplaces, -⟩ := hother hbare
  exact ⟨lx, hlx, _, hline, hbare, hplaces, by decide⟩

/-- With comments on one line, a line of a comment between blanks opens a block,
and a line with a comment in front of a word opens it at the comment. -/
theorem blocks_at_comment : ∃ lx, ofTable blockTable blockComments = .ok lx ∧
    lx.indentation = some (2, 3) ∧
    (∀ prev (rest : Text), '\n' ∉ rest.take (lx.commentChars prev rest)) ∧
    lx.leadComment none blankLine = ['#', 'c', '#'] ∧ lx.shown none blankLine = [' '] ∧
    (lx.lex blankLine).occurrences = [⟨2, 1, 0⟩, ⟨3, 5, 0⟩, ⟨0, 5, 0⟩] ∧
    lx.leadComment none wordLine = ['#', 'c', '#'] ∧ lx.shown none wordLine = ['a'] ∧
    (lx.lex wordLine).occurrences = [⟨2, 1, 0⟩, ⟨4, 4, 1⟩, ⟨3, 5, 0⟩, ⟨0, 5, 0⟩] := by
  obtain ⟨lx, hlx, hflat, hblank, hshown, -, hfound, hword⟩ := exists_blockLexer
  exact ⟨lx, hlx, (madeFrom_ofTable hlx).indentation, hflat, hblank, hshown, hfound, hword⟩

end Lexer
end GrammarKit
