import GrammarKit.Proofs.Lexing.Blocks
import GrammarKit.Proofs.Lexing.Lexed

/-!
# What an occurrence covers

An occurrence covers characters that show it, or it belongs to the layout (`Covers`).
A lexeme and a run of stray characters show: they are not empty and begin with a
character that does not end a line. A token of the layout covers nothing or a line
break. So the text of an occurrence is what it covers if it shows, and empty if not
(`textOf_of_shows`, `textOf_of_layout`).

`Lexer.covers_lex`: this holds of every occurrence in a lexed text. The invariant of the
pass (`Behind`) is that the offset is the width of what is passed, and that a run of
stray characters that is not reported yet ends there.
-/
namespace GrammarKit

/-- A first character that no line break begins with. -/
def Shows (u : Text) : Prop := ∃ c cs, u = c :: cs ∧ c ≠ '\n' ∧ c ≠ '\r'

theorem Shows.append {u v : Text} (h : Shows u) : Shows (u ++ v) := by
  obtain ⟨c, cs, rfl, hc⟩ := h
  exact ⟨c, cs ++ v, rfl, hc⟩

/-- A token that the lexer reports for the layout of a text. -/
def Lexer.Lays (lx : Lexer) (token : TokenId) : Prop :=
  token = lx.endOfStream ∨ token ∈ lx.endOfLine ∨
    ∃ blocks ∈ lx.indentation, token = blocks.1 ∨ token = blocks.2

/-- If the piece is a lexeme or a stray character, it shows. -/
def Piece.Sound : Piece → Prop
  | .lexeme _ u => Shows u
  | .stray c => Shows [c]
  | _ => True

/-- What an occurrence stands for in a text. -/
inductive Covers (lx : Lexer) (text : Text) (o : Occurrence) : Prop where
  | shown {before u after : Text} : text = before ++ (u ++ after) → o.start = Text.bytes before →
      o.len = Text.bytes u → Shows u → lx.Recognizes o.token ∨ o.token = lx.error →
      Covers lx text o
  | layout {before u after : Text} : text = before ++ (u ++ after) → o.start = Text.bytes before →
      o.len = Text.bytes u → u = [] ∨ (∃ crlf, u = breakText crlf) → lx.Lays o.token →
      Covers lx text o

/-! ## The text of an occurrence -/

namespace Lexed

variable {l : Lexed} {o : Occurrence} {before u after : Text}

theorem textOf_of_shows (htext : l.text = before ++ (u ++ after))
    (hstart : o.start = Text.bytes before) (hlen : o.len = Text.bytes u) (hu : Shows u) :
    l.textOf o = .ok u := by
  obtain ⟨c, cs, rfl, hnewline, hreturn⟩ := hu
  have hpos := Text.bytes_pos (List.cons_ne_nil c cs)
  have hinside : ¬ Text.bytes l.text ≤ o.start := by
    rw [htext, hstart, Text.bytes_append, Text.bytes_append]
    omega
  unfold textOf
  rw [if_neg hinside, htext, hstart, Text.dropBytes?_append]
  dsimp only
  rw [if_neg (by simp [hnewline, hreturn]), hlen, Text.takeBytes?_append]
  rfl

theorem textOf_of_layout (htext : l.text = before ++ (u ++ after))
    (hstart : o.start = Text.bytes before) (hlen : o.len = Text.bytes u)
    (hu : u = [] ∨ ∃ crlf, u = breakText crlf) : l.textOf o = .ok [] := by
  unfold textOf
  split
  · rfl
  · rw [htext, hstart, Text.dropBytes?_append]
    dsimp only
    rcases hu with rfl | ⟨crlf, rfl⟩
    · split
      · rfl
      · rw [hlen, Text.takeBytes?_append]
        rfl
    · cases crlf <;> rfl

end Lexed

namespace Lexer

variable {lx : Lexer} {s : Progress} {before after : Text}

/-! ## Tokens of the layout -/

/-- A token for the layout plays a role, and not that of errors. -/
theorem role_of_lays {lx : Lexer} {t : TokenTable} (hlx : lx.MadeFrom t) {token : TokenId}
    (h : lx.Lays token) : ∃ role, role ≠ .error ∧ t.role? role = some token := by
  rcases h with rfl | heol | ⟨blocks, hblocks, hside⟩
  · exact ⟨.endOfStream, by decide, hlx.endOfStream⟩
  · exact ⟨.endOfLine, by decide, hlx.endOfLine.trans heol⟩
  · rw [hlx.indentation] at hblocks
    obtain ⟨indent, hindent, hmap⟩ := Option.bind_eq_some_iff.mp hblocks
    obtain ⟨dedent, hdedent, rfl⟩ := Option.map_eq_some_iff.mp hmap
    rcases hside with rfl | rfl
    · exact ⟨.indent, by decide, hindent⟩
    · exact ⟨.dedent, by decide, hdedent⟩

theorem endLine_lays (s : Progress) (len : Nat) :
    ∀ o ∈ found (lx.endLine s len).1, lx.Lays o.token := by
  rcases endLine_cases lx s len with ⟨heq, -⟩ | ⟨eol, heol, last, -, -, heq⟩
  · rw [heq]
    simp [found]
  · rw [heq]
    exact List.forall_mem_singleton.mpr (.inr (.inl heol))

theorem shift_lays (s : Progress) (width : Nat) :
    ∀ o ∈ found (lx.shift s width).1, lx.Lays o.token := by
  unfold shift
  cases hblocks : lx.indentation with
  | none => simp [found]
  | some blocks =>
    intro o ho
    obtain ⟨e, he, ho⟩ := List.mem_filterMap.mp ho
    rcases List.mem_append.mp he with he | he
    · rw [(List.mem_replicate.mp he).2] at ho
      cases ho
      exact .inr (.inr ⟨blocks, hblocks, .inr rfl⟩)
    · split at he
      · rw [List.mem_singleton.mp he] at ho
        cases ho
        exact .inr (.inr ⟨blocks, hblocks, .inl rfl⟩)
      · cases he

theorem closingDedents_lays (s : Progress) :
    ∀ o ∈ found (closingDedents lx s), lx.Lays o.token := by
  intro o ho
  obtain ⟨e, he, ho⟩ := List.mem_filterMap.mp ho
  unfold closingDedents at he
  split at he
  · next indent dedent hblocks =>
    rw [(List.mem_replicate.mp he).2] at ho
    cases ho
    exact .inr (.inr ⟨(indent, dedent), hblocks, .inr rfl⟩)
  · cases he

/-! ## Pieces that show -/

/-- Where a line break or a carriage return stands, a piece is one of these. -/
theorem piece_of_return {c : Char} (hc : c = '\n' ∨ c = '\r') (prev : Option Char)
    (rest : Text) : (∃ crlf, lx.piece prev c rest = .lineBreak crlf) ∨
      lx.piece prev c rest = .blank c := by
  rcases hc with rfl | rfl
  · exact .inl ⟨false, rfl⟩
  · have hpiece : lx.piece prev '\r' rest =
        if rest.head? = some '\n' then .lineBreak true else .blank '\r' := rfl
    rw [hpiece]
    split
    · exact .inl ⟨true, rfl⟩
    · exact .inr rfl

theorem piece_sound (prev : Option Char) (c : Char) (rest : Text) :
    (lx.piece prev c rest).Sound := by
  by_cases hc : c = '\n' ∨ c = '\r'
  · rcases piece_of_return hc prev rest with ⟨crlf, hp⟩ | hp
    · rw [hp]
      trivial
    · rw [hp]
      trivial
  obtain ⟨hnewline, hreturn⟩ := not_or.mp hc
  rcases lx.piece_cases prev c rest with ⟨d, hp⟩ | ⟨crlf, hp⟩ | ⟨v, hp⟩ | ⟨v, crlf, hp⟩ |
    ⟨b, hb, hp⟩ | ⟨-, hp⟩
  case inr.inr.inr.inr.inl =>
    rw [hp]
    have hne := best_spec hb
    cases hn : b.chars with
    | zero => exact absurd (by rw [hn]; rfl) hne
    | succ n => exact ⟨c, rest.take n, rfl, hnewline, hreturn⟩
  case inr.inr.inr.inr.inr =>
    rw [hp]
    exact ⟨c, [], rfl, hnewline, hreturn⟩
  all_goals
    rw [hp]
    trivial

theorem piecesFrom_sound (lx : Lexer) (prev : Option Char) (atLineStart : Bool) (rest : Text) :
    ∀ p ∈ lx.piecesFrom prev atLineStart rest, p.Sound := by
  fun_induction piecesFrom lx prev atLineStart rest with
  | case1 prev rest blanks hmargin ih => exact List.forall_mem_cons.mpr ⟨trivial, ih⟩
  | case2 prev rest hmargin ih => exact ih
  | case3 => simp
  | case4 prev _ _ c rest p ih => exact List.forall_mem_cons.mpr ⟨piece_sound prev c rest, ih⟩

/-! ## What each step of the pass reports -/

/-- All of `before` is passed, and the run of stray characters at its end, if there is
one, shows. -/
structure Behind (s : Progress) (before : Text) : Prop where
  offset_eq : s.offset = Text.bytes before
  stray : ∀ start ∈ s.strayStart, ∃ done run, before = done ++ run ∧ start = Text.bytes done ∧
    Shows run

theorem Behind.clear {s : Progress} {before : Text} (hoffset : s.offset = Text.bytes before)
    (hstray : s.strayStart = none) : Behind s before :=
  ⟨hoffset, by simp [hstray]⟩

/-- A run of stray characters is told as an error. -/
theorem flush_covers (h : Behind s before) :
    ∀ o ∈ found (lx.flush s).1, Covers lx (before ++ after) o := by
  unfold flush
  split
  · simp [found]
  · next start hstart =>
    obtain ⟨done, run, rfl, rfl, hrun⟩ := h.stray start hstart
    intro o ho
    rw [List.mem_singleton.mp ho]
    refine .shown (List.append_assoc done run after) rfl ?_ hrun (.inr rfl)
    show s.offset - _ = _
    rw [h.offset_eq, Text.bytes_append]
    omega

/-- Layout without length fits in anywhere. -/
theorem covers_of_lays {o : Occurrence} (hstart : o.start = Text.bytes before) (hlen : o.len = 0)
    (hlays : lx.Lays o.token) : Covers lx (before ++ after) o :=
  .layout (u := []) rfl hstart hlen (.inl rfl) hlays

/-- The end of a line covers the line break. -/
theorem endLine_covers {u : Text} (hoffset : s.offset = Text.bytes before)
    (hu : u = [] ∨ ∃ crlf, u = breakText crlf) :
    ∀ o ∈ found (lx.endLine s (Text.bytes u)).1, Covers lx (before ++ (u ++ after)) o := by
  rcases endLine_cases lx s (Text.bytes u) with ⟨heq, -⟩ | ⟨eol, heol, last, -, -, heq⟩
  · rw [heq]
    simp [found]
  · rw [heq]
    intro o ho
    rw [List.mem_singleton.mp ho]
    exact .layout rfl hoffset rfl hu (.inr (.inl heol))

theorem shift_covers (hoffset : s.offset = Text.bytes before) (width : Nat) :
    ∀ o ∈ found (lx.shift s width).1, Covers lx (before ++ after) o := by
  obtain ⟨hplace, -⟩ := shift_spec lx s width
  intro o ho
  obtain ⟨hstart, hlen⟩ := hplace o ho
  exact covers_of_lays (hstart.trans hoffset) hlen (shift_lays s width o ho)

theorem closingDedents_covers (hoffset : s.offset = Text.bytes before) :
    ∀ o ∈ found (closingDedents lx s), Covers lx (before ++ after) o := by
  intro o ho
  obtain ⟨hstart, hlen⟩ := closingDedents_spec lx s o ho
  exact covers_of_lays (hstart.trans hoffset) hlen (closingDedents_lays s o ho)

/-- A lexeme is reported with its text, and nothing beside it. -/
theorem found_emitPiece_lexeme (lx : Lexer) (s : Progress) (token : TokenId) (u : Text) :
    found (lx.emitPiece s (.lexeme token u)).1 = [⟨token, s.offset, Text.bytes u⟩] := by
  show _ :: found (innerNewlines s.offset u) = _
  rw [found_innerNewlines]

/-- A piece that is not a stray character is reported where it stands. -/
theorem emitPiece_covers {p : Piece} (hs : s.offset = Text.bytes before) (hsound : p.Sound)
    (hrec : ∀ token u, p = .lexeme token u → lx.Recognizes token) :
    ∀ o ∈ found (lx.emitPiece s p).1, Covers lx (before ++ (p.text ++ after)) o := by
  cases p with
  | margin blanks =>
    have hoffset : (s.advance (Text.bytes blanks)).offset = Text.bytes (before ++ blanks) := by
      rw [Text.bytes_append, ← hs]
      rfl
    rw [← List.append_assoc]
    exact shift_covers hoffset _
  | lineBreak crlf => exact endLine_covers hs (.inr ⟨crlf, rfl⟩)
  | lexeme token u =>
    intro o ho
    rw [found_emitPiece_lexeme] at ho
    rw [List.mem_singleton.mp ho]
    exact .shown rfl hs rfl hsound (.inl (hrec token u rfl))
  | comment u =>
    intro o ho
    have hfound : found (lx.emitPiece s (.comment u)).1 = [] := found_innerNewlines s.offset u
    rw [hfound] at ho
    cases ho
  | _ => simp [emitPiece, found]

/-- No piece but a stray character begins a run. -/
theorem emit_strayStart (lx : Lexer) (s : Progress) {p : Piece} (hp : ∀ c, p ≠ .stray c) :
    (lx.emit s p).2.strayStart = none := by
  obtain ⟨-, hnone, -⟩ := flush_spec lx s
  cases p with
  | stray c => exact absurd rfl (hp c)
  | margin blanks =>
    obtain ⟨-, -, hshift⟩ := shift_spec lx ((lx.flush s).2.advance (Text.bytes blanks))
      (blankWidth lx.options.tabWidth blanks)
    exact hshift.trans hnone
  | lineBreak crlf =>
    obtain ⟨-, -, hline⟩ := endLine_spec lx (lx.flush s).2 (Text.bytes (breakText crlf))
    exact hline.trans hnone
  | _ => exact hnone

/-- A stray character joins the run before it, if there is one. -/
theorem behind_stray {c : Char} (h : Behind s before) (hc : Shows [c]) :
    Behind (lx.emit s (.stray c)).2 (before ++ [c]) := by
  refine ⟨?_, ?_⟩
  · rw [emit_offset, h.offset_eq, Text.bytes_append]
    rfl
  · show ∀ start ∈ some (s.strayStart.getD s.offset), _
    rintro start ⟨⟩
    cases hstart : s.strayStart with
    | none => exact ⟨before, [c], rfl, h.offset_eq, hc⟩
    | some start =>
      obtain ⟨done, run, rfl, rfl, hrun⟩ := h.stray start hstart
      exact ⟨done, run ++ [c], List.append_assoc done run [c], rfl, hrun.append⟩

/-- Reporting a piece passes it. -/
theorem emit_covers {p : Piece} (after : Text) (h : Behind s before) (hsound : p.Sound)
    (hrec : ∀ token u, p = .lexeme token u → lx.Recognizes token) :
    (∀ o ∈ found (lx.emit s p).1, Covers lx (before ++ (p.text ++ after)) o) ∧
      Behind (lx.emit s p).2 (before ++ p.text) := by
  by_cases hstray : ∃ c, p = .stray c
  · obtain ⟨c, rfl⟩ := hstray
    exact ⟨by simp [emit, found], behind_stray h hsound⟩
  have hstray : ∀ c, p ≠ .stray c := fun c hc => hstray ⟨c, hc⟩
  have hoffset : (lx.emit s p).2.offset = Text.bytes (before ++ p.text) := by
    rw [emit_offset, h.offset_eq, Text.bytes_append]
  refine ⟨fun o ho => ?_, .clear hoffset (emit_strayStart lx s hstray)⟩
  by_cases hjoint : ∃ u crlf, p = .joint u crlf
  · -- the newline of a joint is no occurrence
    obtain ⟨u, crlf, rfl⟩ := hjoint
    exact flush_covers h o ho
  · rw [emit_eq hstray fun u crlf hp => hjoint ⟨u, crlf, hp⟩, found_append] at ho
    rcases List.mem_append.mp ho with ho | ho
    · exact flush_covers h o ho
    · obtain ⟨hflush, -, -⟩ := flush_spec lx s
      exact emitPiece_covers (hflush.trans h.offset_eq) hsound hrec o ho

/-- The end of the text closes everything. -/
theorem finish_covers (h : Behind s before) :
    ∀ o ∈ found (lx.finish s), Covers lx (before ++ []) o := by
  obtain ⟨hflush, -, -⟩ := flush_spec lx s
  have hflush := hflush.trans h.offset_eq
  obtain ⟨-, hended, -⟩ := endLine_spec lx (lx.flush s).2 0
  have hended := hended.trans hflush
  intro o ho
  rw [finish_eq, found_append, found_append, found_append] at ho
  simp only [List.mem_append] at ho
  rcases ho with ((ho | ho) | ho) | ho
  · exact flush_covers h o ho
  · exact endLine_covers (u := []) hflush (.inl rfl) o ho
  · exact closingDedents_covers hended o ho
  · rw [List.mem_singleton.mp ho]
    exact covers_of_lays hended rfl (.inl rfl)

/-- Reporting pieces covers the text that they make up. -/
theorem eventsFrom_covers {rest : Text} {ps : List Piece} (hcuts : Cuts lx before rest ps)
    (hsound : ∀ p ∈ ps, p.Sound) (hrec : ∀ token u, .lexeme token u ∈ ps → lx.Recognizes token)
    (h : Behind s before) :
    ∀ o ∈ found (lx.eventsFrom s ps), Covers lx (before ++ rest) o := by
  induction hcuts generalizing s with
  | nil => exact finish_covers h
  | @cons before after p ps _ _ ih =>
    obtain ⟨hp, hps⟩ := List.forall_mem_cons.mp hsound
    obtain ⟨hcovers, hbehind⟩ := emit_covers after h hp fun token u hpu =>
      hrec token u (hpu ▸ List.mem_cons_self)
    have htail := ih hps (fun token u hu => hrec token u (List.mem_cons_of_mem p hu)) hbehind
    intro o ho
    rw [eventsFrom, found_append] at ho
    rcases List.mem_append.mp ho with ho | ho
    · exact hcovers o ho
    · simpa using htail o ho

/-- Every occurrence in a lexed text shows or belongs to the layout. -/
theorem covers_lex {t : TokenTable} (hlx : lx.MadeFrom t) (text : Text) :
    ∀ o ∈ (lx.lex text).occurrences, Covers lx text o :=
  eventsFrom_covers (pieces_cuts lx text) (piecesFrom_sound lx none true text)
    (fun _ _ h => recognized_of_lexeme hlx h) (.clear rfl rfl)

end Lexer
end GrammarKit
