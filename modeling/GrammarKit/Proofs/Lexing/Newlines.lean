import GrammarKit.Lexing.Layout
import GrammarKit.Proofs.Lexing.Pieces
import Mathlib

/-!
# The index of newlines

The index of a lexed text is made piece by piece: line breaks, joints, comments
and lexemes enter their newlines into it. A joint enters only the newline at its
end. A comment may stand before that newline, and newlines in this comment are
hidden (`Piece.Hides`).

So the index is complete exactly if no joint hides a newline, and then it counts
lines (`newlines_complete_iff`). Nothing is hidden if lines are not joined, or if
no comment goes over several lines (`newlines_of_flat_comments`).
-/
namespace GrammarKit

namespace Text

/-- Byte offsets of the newlines of a text that starts at an offset. -/
def newlinesFrom (offset : Nat) : Text → List Nat
  | [] => []
  | c :: cs =>
    (if c = '\n' then [offset] else []) ++ newlinesFrom (offset + c.utf8Size) cs

/-- Byte offsets of the newlines of a text. -/
def newlines (text : Text) : List Nat := newlinesFrom 0 text

theorem newlinesFrom_append (offset : Nat) (s t : Text) :
    newlinesFrom offset (s ++ t) = newlinesFrom offset s ++ newlinesFrom (offset + bytes s) t := by
  induction s generalizing offset with
  | nil => rfl
  | cons c s ih =>
    simp only [List.cons_append, newlinesFrom, bytes_cons, ih, List.append_assoc, Nat.add_assoc]

/-- The offsets are those of the newline characters. -/
theorem mem_newlinesFrom_iff {offset n : Nat} {text : Text} :
    n ∈ newlinesFrom offset text ↔
      ∃ before after, text = before ++ '\n' :: after ∧ n = offset + bytes before := by
  induction text generalizing offset with
  | nil => simp [newlinesFrom]
  | cons c cs ih =>
    rw [newlinesFrom, List.mem_append, ih]
    constructor
    · intro h
      rcases h with h | ⟨before, after, rfl, rfl⟩
      · split at h
        · next hc =>
          exact ⟨[], cs, by rw [hc]; rfl, List.mem_singleton.mp h⟩
        · cases h
      · exact ⟨c :: before, after, rfl, by rw [bytes_cons, Nat.add_assoc]⟩
    · intro h
      obtain ⟨before, after, htext, rfl⟩ := h
      cases before with
      | nil =>
        obtain ⟨rfl, rfl⟩ := List.cons.inj htext
        exact Or.inl (by simp)
      | cons d before =>
        obtain ⟨rfl, rfl⟩ := List.cons.inj htext
        exact Or.inr ⟨before, after, rfl, by rw [bytes_cons, Nat.add_assoc]⟩

theorem newlinesFrom_eq_nil_iff {offset : Nat} {text : Text} :
    newlinesFrom offset text = [] ↔ '\n' ∉ text := by
  rw [List.eq_nil_iff_forall_not_mem]
  constructor
  · intro h hmem
    obtain ⟨before, after, htext⟩ := List.append_of_mem hmem
    exact h _ (mem_newlinesFrom_iff.mpr ⟨before, after, htext, rfl⟩)
  · intro h n hn
    obtain ⟨before, after, rfl, -⟩ := mem_newlinesFrom_iff.mp hn
    exact h (by simp)

/-- The offsets ascend. -/
theorem pairwise_newlinesFrom (offset : Nat) (text : Text) :
    (newlinesFrom offset text).Pairwise (· < ·) := by
  induction text generalizing offset with
  | nil => exact .nil
  | cons c cs ih =>
    rw [newlinesFrom]
    split
    · refine List.pairwise_cons.mpr ⟨?_, ih _⟩
      intro n hn
      obtain ⟨before, -, -, rfl⟩ := mem_newlinesFrom_iff.mp hn
      have := c.utf8Size_pos
      omega
    · exact ih _

end Text

/-- Of an ascending list, the numbers below a bound come first. -/
theorem takeWhile_lt_eq_filter {ns : List Nat} (h : ns.Pairwise (· < ·)) (bound : Nat) :
    ns.takeWhile (· < bound) = ns.filter (· < bound) := by
  induction h with
  | nil => rfl
  | @cons n ns hlt _ ih =>
    by_cases hn : n < bound
    · rw [List.takeWhile_cons_of_pos (by simpa using hn),
        List.filter_cons_of_pos (by simpa using hn), ih]
    · rw [List.takeWhile_cons_of_neg (by simpa using hn),
        List.filter_cons_of_neg (by simpa using hn)]
      refine (List.filter_eq_nil_iff.mpr fun m hm => ?_).symm
      have := hlt m hm
      simp only [decide_eq_true_eq]
      omega

/-! ## The newlines among events -/

/-- The newlines among events. -/
def listed (events : List LexEvent) : List Nat := events.filterMap LexEvent.newline?

@[simp] theorem listed_append (es fs : List LexEvent) :
    listed (es ++ fs) = listed es ++ listed fs :=
  List.filterMap_append

theorem listed_innerNewlines (offset : Nat) (text : Text) :
    listed (innerNewlines offset text) = text.newlinesFrom offset := by
  induction text generalizing offset with
  | nil => rfl
  | cons c cs ih =>
    rw [innerNewlines, listed_append, ih, Text.newlinesFrom]
    split
    · rfl
    · rfl

namespace Piece

/-- Newlines that a piece at an offset enters into the index. -/
def entered (offset : Nat) : Piece → List Nat
  | joint skipped crlf => (breakText crlf).newlinesFrom (offset + Text.bytes ('\\' :: skipped))
  | p => p.text.newlinesFrom offset

/-- Whether newlines of the piece are missing in the index. -/
def Hides : Piece → Prop
  | joint skipped _ => '\n' ∈ skipped
  | _ => False

/-- A piece enters the last of its newlines, and all of them if it hides none. -/
theorem newlinesFrom_text (p : Piece) (offset : Nat) :
    ∃ hidden, p.text.newlinesFrom offset = hidden ++ p.entered offset ∧
      (hidden = [] ↔ ¬ p.Hides) := by
  cases p with
  | joint skipped crlf =>
    refine ⟨Text.newlinesFrom offset ('\\' :: skipped), Text.newlinesFrom_append .., ?_⟩
    rw [Text.newlinesFrom_eq_nil_iff]
    simp [Hides]
  | _ => exact ⟨[], rfl, by simp [Hides]⟩

end Piece

/-- Newlines that pieces enter into the index, the first piece at an offset. -/
def enteredFrom (offset : Nat) : List Piece → List Nat
  | [] => []
  | p :: ps => p.entered offset ++ enteredFrom (offset + Text.bytes p.text) ps

namespace Lexer

variable {lx : Lexer} {s : Progress}

/-! ## What each step of the pass enters -/

theorem flush_enters (lx : Lexer) (s : Progress) :
    listed (lx.flush s).1 = [] ∧ (lx.flush s).2.offset = s.offset := by
  unfold flush
  split
  · exact ⟨rfl, rfl⟩
  · exact ⟨rfl, rfl⟩

theorem endLine_enters (lx : Lexer) (s : Progress) (len : Nat) :
    listed (lx.endLine s len).1 = [] ∧ (lx.endLine s len).2.offset = s.offset := by
  unfold endLine
  split
  · exact ⟨rfl, rfl⟩
  · exact ⟨rfl, rfl⟩

theorem shift_enters (lx : Lexer) (s : Progress) (width : Nat) :
    listed (lx.shift s width).1 = [] ∧ (lx.shift s width).2.offset = s.offset := by
  unfold shift
  split
  · exact ⟨rfl, rfl⟩
  · refine ⟨?_, rfl⟩
    refine List.filterMap_eq_nil_iff.mpr fun e he => ?_
    rcases List.mem_append.mp he with he | he
    · rw [(List.mem_replicate.mp he).2]
      rfl
    · split at he
      · rw [List.mem_singleton.mp he]
        rfl
      · cases he

/-- Any piece but a stray character or a joint enters its newlines. -/
theorem emitPiece_enters {before after : Text} {p : Piece} (hcut : Cut lx before after p)
    (hstray : ∀ c, p ≠ .stray c) (hjoint : ∀ u crlf, p ≠ .joint u crlf) :
    listed (lx.emitPiece s p).1 = p.entered s.offset ∧
      (lx.emitPiece s p).2.offset = s.offset + Text.bytes p.text := by
  cases hcut with
  | @margin blanks hblanks =>
    obtain ⟨hlisted, hoffset⟩ := shift_enters lx (s.advance (Text.bytes blanks))
      (blankWidth lx.options.tabWidth blanks)
    have hnone : '\n' ∉ blanks := fun h => absurd (hblanks _ h) (by decide)
    refine ⟨?_, hoffset⟩
    show listed (lx.shift _ _).1 = blanks.newlinesFrom s.offset
    rw [hlisted, Text.newlinesFrom_eq_nil_iff.mpr hnone]
  | @blank c hc =>
    have hnone : '\n' ∉ [c] := by
      intro h
      rw [← List.mem_singleton.mp h] at hc
      revert hc
      decide
    refine ⟨?_, rfl⟩
    show [] = Text.newlinesFrom s.offset [c]
    rw [Text.newlinesFrom_eq_nil_iff.mpr hnone]
  | lineBreak crlf =>
    obtain ⟨hlisted, hoffset⟩ := endLine_enters lx s (Text.bytes (breakText crlf))
    refine ⟨?_, congrArg (· + _) hoffset⟩
    show (s.offset + Text.bytes (breakText crlf) - 1) :: listed (lx.endLine s _).1 = _
    rw [hlisted]
    cases crlf with
    | false => rfl
    | true => rfl
  | @comment u _ _ => exact ⟨listed_innerNewlines s.offset u, rfl⟩
  | @joint u crlf _ _ => exact absurd rfl (hjoint u crlf)
  | @lexeme t u _ => exact ⟨listed_innerNewlines s.offset u, rfl⟩
  | stray c => exact absurd rfl (hstray c)

/-- Every piece enters its newlines and moves on by its text. -/
theorem emit_enters {before after : Text} {p : Piece} (hcut : Cut lx before after p)
    (hstray : p ≠ .stray '\n') :
    listed (lx.emit s p).1 = p.entered s.offset ∧
      (lx.emit s p).2.offset = s.offset + Text.bytes p.text := by
  obtain ⟨hflush, hoffset⟩ := flush_enters lx s
  cases p with
  | stray c =>
    refine ⟨?_, rfl⟩
    have hnone : '\n' ∉ [c] := fun h => hstray (by rw [List.mem_singleton.mp h])
    show [] = Text.newlinesFrom s.offset [c]
    rw [Text.newlinesFrom_eq_nil_iff.mpr hnone]
  | joint u crlf =>
    refine ⟨?_, congrArg (· + _) hoffset⟩
    show ((lx.flush s).2.offset + Text.bytes (Piece.joint u crlf).text - 1) ::
      listed (lx.flush s).1 = _
    rw [hflush, hoffset, Piece.text, Text.bytes_append, Piece.entered, ← Nat.add_assoc]
    cases crlf with
    | false => rfl
    | true => rfl
  | _ =>
    have hpiece := emitPiece_enters (s := (lx.flush s).2) hcut (by simp) (by simp)
    rw [hoffset] at hpiece
    rw [emit_eq (by simp) (by simp), listed_append, hflush]
    exact hpiece

theorem finish_enters (lx : Lexer) (s : Progress) : listed (lx.finish s) = [] := by
  unfold finish
  dsimp only
  rw [listed_append, listed_append, listed_append, (flush_enters lx s).1,
    (endLine_enters lx _ 0).1]
  split
  · refine List.append_eq_nil_iff.mpr ⟨List.filterMap_eq_nil_iff.mpr fun e he => ?_, rfl⟩
    rw [(List.mem_replicate.mp he).2]
    rfl
  · rfl

/-! ## The whole pass -/

/-- No piece is a newline that belongs to nothing. -/
theorem piecesFrom_ne_stray (lx : Lexer) (prev : Option Char) (atLineStart : Bool) (rest : Text) :
    ∀ p ∈ lx.piecesFrom prev atLineStart rest, p ≠ .stray '\n' := by
  fun_induction piecesFrom lx prev atLineStart rest with
  | case1 prev rest blanks hmargin ih => exact List.forall_mem_cons.mpr ⟨by simp, ih⟩
  | case2 prev rest hmargin ih => exact ih
  | case3 => simp
  | case4 prev _ _ c rest p ih =>
    refine List.forall_mem_cons.mpr ⟨?_, ih⟩
    show lx.piece prev c rest ≠ _
    rcases lx.piece_cases prev c rest with ⟨d, hp⟩ | ⟨crlf, hp⟩ | ⟨v, hp⟩ | ⟨v, crlf, hp⟩ |
      ⟨b, -, hp⟩ | ⟨hnewline, hp⟩
    case inr.inr.inr.inr.inr =>
      rw [hp]
      exact fun h => hnewline (Piece.stray.inj h)
    all_goals
      rw [hp]
      exact fun h => by cases h

/-- The events of a pass list what the pieces enter. -/
theorem listed_eventsFrom {before rest : Text} {ps : List Piece} (hcuts : Cuts lx before rest ps)
    (hstray : ∀ p ∈ ps, p ≠ .stray '\n') :
    listed (lx.eventsFrom s ps) = enteredFrom s.offset ps := by
  induction hcuts generalizing s with
  | nil => exact finish_enters lx s
  | cons hcut _ ih =>
    obtain ⟨hp, hps⟩ := List.forall_mem_cons.mp hstray
    obtain ⟨hlisted, hoffset⟩ := emit_enters (s := s) hcut hp
    rw [eventsFrom, listed_append, hlisted, ih hps, hoffset, enteredFrom]

/-- Pieces enter newlines of their text, and all of them unless one hides some. -/
theorem enteredFrom_sublist {before rest : Text} {ps : List Piece} (hcuts : Cuts lx before rest ps)
    (offset : Nat) :
    (enteredFrom offset ps).Sublist (rest.newlinesFrom offset) ∧
      (enteredFrom offset ps = rest.newlinesFrom offset ↔ ∀ p ∈ ps, ¬ p.Hides) := by
  induction hcuts generalizing offset with
  | nil => simp [enteredFrom, Text.newlinesFrom]
  | @cons before after p ps _ _ ih =>
    obtain ⟨hsub, hiff⟩ := ih (offset + Text.bytes p.text)
    obtain ⟨hidden, htext, hhides⟩ := p.newlinesFrom_text offset
    rw [enteredFrom, Text.newlinesFrom_append, htext, List.append_assoc]
    refine ⟨(hsub.append_left _).trans (List.sublist_append_right _ _), ?_⟩
    rw [List.forall_mem_cons, ← hiff, ← hhides]
    constructor
    · intro h
      have hlength := congrArg List.length h
      have hle := hsub.length_le
      simp only [List.length_append] at hlength
      have hnil : hidden = [] := List.eq_nil_of_length_eq_zero (by omega)
      subst hnil
      exact ⟨rfl, List.append_cancel_left h⟩
    · intro h
      obtain ⟨rfl, h⟩ := h
      rw [h]
      rfl

theorem newlines_lex (lx : Lexer) (text : Text) :
    (lx.lex text).newlines = enteredFrom 0 (lx.pieces text) :=
  listed_eventsFrom (s := .start) (pieces_cuts lx text) (piecesFrom_ne_stray lx none true text)

/-- The line of an offset counts the newlines of the index before it. -/
theorem fst_lineOf {l : Lexed} (h : l.newlines.Pairwise (· < ·)) (offset : Nat) :
    (l.lineOf offset).1 = 1 + (l.newlines.filter (· < offset)).length := by
  unfold Lexed.lineOf
  rw [takeWhile_lt_eq_filter h offset]
  split
  · next hnil => rw [hnil]; rfl
  · next n ns hcons =>
    rw [hcons, List.length_cons]
    show ns.length + 2 = _
    omega

/-- **When the index is complete.** The index of a lexed text lists newlines of
the text in order. It lists them all exactly if no joint hides one, and then
lines are told right. -/
theorem newlines_complete_iff (lx : Lexer) (text : Text) :
    (lx.lex text).newlines.Sublist text.newlines ∧
      ((lx.lex text).newlines = text.newlines ↔ ∀ p ∈ lx.pieces text, ¬ p.Hides) ∧
      ((∀ p ∈ lx.pieces text, ¬ p.Hides) → ∀ offset,
        ((lx.lex text).lineOf offset).1 = 1 + (text.newlines.filter (· < offset)).length) := by
  obtain ⟨hsub, hiff⟩ := enteredFrom_sublist (pieces_cuts lx text) 0
  rw [← newlines_lex] at hsub hiff
  refine ⟨hsub, hiff, fun hnone offset => ?_⟩
  have hascend := (text.pairwise_newlinesFrom 0).sublist hsub
  rw [fst_lineOf hascend, hiff.mpr hnone]
  rfl

/-- The tokens and the options of `newlines_of_hidden`: lines can be joined, and
a comment goes over two lines. -/
def twoLineComments : Option Lexer :=
  (TokenTable.ofDecls [.playing (.named "End") .endOfStream, .playing (.named "Error") .error,
    .withLiterals (.named "Word") ["a", "b"]]).toOption.bind fun t =>
      (ofTable t ⟨4, true, some "#\n#"⟩).toOption

/-- A comment in a joint hides its newline, so that the `b` behind it is said to
be in the second line instead of the third. -/
theorem newlines_of_hidden :
    ∃ lx, twoLineComments = some lx ∧
      (lx.lex "a\\#\n#\nb".toList).newlines = [5] ∧
      Text.newlines "a\\#\n#\nb".toList = [3, 5] ∧
      ((lx.lex "a\\#\n#\nb".toList).lineOf 6).1 = 2 := by
  have heval : (twoLineComments.map fun lx => ((lx.lex "a\\#\n#\nb".toList).newlines,
      ((lx.lex "a\\#\n#\nb".toList).lineOf 6).1)) = some ([5], 2) := by cbv
  obtain ⟨lx, hlx, heq⟩ := Option.map_eq_some_iff.mp heval
  obtain ⟨hnewlines, hline⟩ := Prod.mk.inj heq
  exact ⟨lx, hlx, hnewlines, by decide, hline⟩

/-- Without comments over several lines in joints nothing is hidden. -/
theorem newlines_of_flat_comments {lx : Lexer}
    (h : lx.options.escapeNewlines = false ∨
      ∀ rest : Text, '\n' ∉ rest.take (lx.commentChars (some '\\') rest)) (text : Text) :
    (lx.lex text).newlines = text.newlines := by
  rw [newlines_lex]
  refine (enteredFrom_sublist (pieces_cuts lx text) 0).2.mpr fun p hp => ?_
  obtain ⟨before, after, hcut⟩ := (pieces_cuts lx text).exists_cut hp
  cases hcut with
  | joint hescape hu =>
    rcases h with h | h
    · rw [h] at hescape
      cases hescape
    · show '\n' ∉ _
      rw [hu]
      exact h _
  | _ => exact id

end Lexer
end GrammarKit
