import GrammarKit.Proofs.Lexing.FirstChars
import GrammarKit.Proofs.Lexing.LinePositions

/-!
# Pieces where lines end otherwise

`Text.crlf` puts a carriage return in front of every newline of a text. A lexer whose
literals go over no line end and that skips no comments cuts both texts alike
(`Lexer.piecesFrom_crlf`): the pieces are the same but for the line breaks in them. The
reason is that a literal is compared up to its end only, and that no other character
counts as one that ends a line, not even without case (`LiteralSet.sameChar_lineEnd`).
-/
namespace GrammarKit

/-! ## Carriage returns in front of newlines -/

namespace Text

/-- The text with a carriage return in front of every newline. -/
def crlf : Text → Text
  | [] => []
  | c :: cs => (if c = '\n' then ['\r', '\n'] else [c]) ++ crlf cs

@[simp] theorem crlf_nil : crlf [] = [] := rfl

theorem crlf_newline (cs : Text) : crlf ('\n' :: cs) = '\r' :: '\n' :: crlf cs := rfl

theorem crlf_cons {c : Char} (hc : c ≠ '\n') (cs : Text) : crlf (c :: cs) = c :: crlf cs := by
  rw [crlf, if_neg hc, List.singleton_append]

@[simp] theorem crlf_append (s t : Text) : crlf (s ++ t) = crlf s ++ crlf t := by
  induction s with
  | nil => rfl
  | cons c s ih => rw [List.cons_append, crlf, ih, crlf, List.append_assoc]

/-- A text without newlines stays as it is. -/
theorem crlf_of_notMem {u : Text} (h : '\n' ∉ u) : crlf u = u := by
  induction u with
  | nil => rfl
  | cons c u ih =>
    obtain ⟨hc, hu⟩ := List.ne_and_not_mem_of_not_mem_cons h
    rw [crlf_cons hc.symm, ih hu]

theorem crlf_eq_nil_iff {u : Text} : crlf u = [] ↔ u = [] := by
  cases u with
  | nil => simp
  | cons c u =>
    rw [crlf]
    split <;> simp

theorem count_crlf (text : Text) : (crlf text).count '\n' = text.count '\n' := by
  induction text with
  | nil => rfl
  | cons c text ih =>
    by_cases hc : c = '\n'
    · subst hc
      rw [crlf_newline, List.count_cons_of_ne (by decide), List.count_cons_self,
        List.count_cons_self, ih]
    · rw [crlf_cons hc, List.count_cons_of_ne hc, List.count_cons_of_ne hc, ih]

theorem lastLine_crlf (text : Text) : (crlf text).lastLine = text.lastLine := by
  rcases text.line_cases with hnone | ⟨before, line, rfl, hline⟩
  · rw [crlf_of_notMem hnone]
  · have hcrlf : crlf (before ++ '\n' :: line) = crlf before ++ ['\r'] ++ '\n' :: line := by
      rw [crlf_append, crlf_newline, crlf_of_notMem hline]
      simp
    rw [hcrlf, lastLine_append hline, lastLine_append hline]

/-- The characters up to the first newline are the same. -/
theorem take_crlf {text : Text} {n : Nat} (h : '\n' ∉ text.take n) :
    (crlf text).take n = text.take n := by
  induction text generalizing n with
  | nil => rfl
  | cons c text ih =>
    cases n with
    | zero => rfl
    | succ n =>
      rw [List.take_succ_cons] at h ⊢
      obtain ⟨hc, hrest⟩ := List.ne_and_not_mem_of_not_mem_cons h
      rw [crlf_cons hc.symm, List.take_succ_cons, ih hrest]

theorem drop_crlf {text : Text} {n : Nat} (h : '\n' ∉ text.take n) :
    (crlf text).drop n = crlf (text.drop n) := by
  have hsplit : crlf text = text.take n ++ crlf (text.drop n) := by
    rw [← crlf_of_notMem h, ← crlf_append, List.take_append_drop]
  by_cases hn : n ≤ text.length
  · rw [hsplit, List.drop_left' (by simpa using hn)]
  · have hend : text.drop n = [] := List.drop_eq_nil_of_le (by omega)
    have hall : text.take n = text := List.take_of_length_le (by omega)
    rw [hsplit, hend, hall, crlf_nil, List.append_nil, hend]

theorem takeWhile_indents_crlf (text : Text) :
    (crlf text).takeWhile indents = text.takeWhile indents := by
  induction text with
  | nil => rfl
  | cons c text ih =>
    by_cases hc : c = '\n'
    · subst hc
      rfl
    · rw [crlf_cons hc, List.takeWhile_cons, List.takeWhile_cons, ih]

theorem newline_notMem_takeWhile_indents (text : Text) : '\n' ∉ text.takeWhile indents :=
  fun h => absurd (List.all_eq_true.mp List.all_takeWhile _ h) (by decide)

/-- Behind the blanks in front the texts differ as they do as a whole. -/
theorem drop_blanks_crlf (text : Text) :
    (crlf text).drop (text.takeWhile indents).length =
      crlf (text.drop (text.takeWhile indents).length) := by
  refine drop_crlf ?_
  rw [← List.prefix_iff_eq_take.mp (List.takeWhile_prefix indents)]
  exact newline_notMem_takeWhile_indents text

end Text

/-! ## Literals in a line -/

namespace LiteralSet

/-- No literal goes over the end of a line. -/
def OneLine (s : LiteralSet) : Prop := ∀ l ∈ s.literals, '\n' ∉ l ∧ '\r' ∉ l

/-- A character that ends a line counts as no other one. -/
theorem sameChar_lineEnd {c d : Char} (hc : c = '\n' ∨ c = '\r') (hd : d ≠ c) (cs : Bool) :
    sameChar cs c d = false := by
  have hlower : Text.Casing.lower c = [c] ∧ c.toNat < 0x61 := by
    rcases hc with rfl | rfl <;> decide +kernel
  have hne : ¬ Text.Casing.lower c = Text.Casing.lower d := by
    intro h
    rw [hlower.1] at h
    exact hd (Text.Casing.eq_of_lower_eq h.symm hlower.2)
  simp [sameChar, hd.symm, hne]

/-- A literal in a line is found alike, and goes over no newline. -/
theorem beginsWith_crlf {cs : Bool} {text literal : Text}
    (hliteral : '\n' ∉ literal ∧ '\r' ∉ literal) :
    beginsWith cs (Text.crlf text) literal = beginsWith cs text literal ∧
      (beginsWith cs text literal = true → '\n' ∉ text.take literal.length) := by
  induction literal generalizing text with
  | nil => simp [beginsWith]
  | cons d literal ih =>
    obtain ⟨hnewline, hreturn⟩ := hliteral
    obtain ⟨hdn, hnewline⟩ := List.ne_and_not_mem_of_not_mem_cons hnewline
    obtain ⟨hdr, hreturn⟩ := List.ne_and_not_mem_of_not_mem_cons hreturn
    cases text with
    | nil => simp [beginsWith]
    | cons c text =>
      by_cases hc : c = '\n'
      · subst hc
        have hn := sameChar_lineEnd (.inl rfl) hdn.symm cs
        have hr := sameChar_lineEnd (.inr rfl) hdr.symm cs
        rw [Text.crlf_newline]
        simp [beginsWith, hn, hr]
      · obtain ⟨heq, hflat⟩ := @ih text ⟨hnewline, hreturn⟩
        rw [Text.crlf_cons hc, beginsWith, beginsWith, heq]
        refine ⟨rfl, fun h => ?_⟩
        have hrest := hflat (Bool.and_eq_true_iff.mp h).2
        rw [List.length_cons, List.take_succ_cons]
        exact List.not_mem_cons_of_ne_of_not_mem (Ne.symm hc) hrest

variable {s : LiteralSet} (hs : s.OneLine)
include hs

theorem matchChars_crlf (text : Text) : s.matchChars (Text.crlf text) = s.matchChars text := by
  have hfind : s.literals.find? (beginsWith s.caseSensitive (Text.crlf text)) =
      s.literals.find? (beginsWith s.caseSensitive text) :=
    List.find?_congr fun l hl => (beginsWith_crlf (hs l hl)).1
  rw [matchChars, matchChars, hfind]

/-- A match goes over no newline. -/
theorem newline_notMem_match (text : Text) : '\n' ∉ text.take (s.matchChars text) := by
  rcases Nat.eq_zero_or_pos (s.matchChars text) with hzero | hpos
  · simp [hzero]
  · obtain ⟨l, hl, -, hbegins, hchars⟩ := exists_of_matchChars_pos hpos
    rw [hchars]
    exact (beginsWith_crlf (hs l hl)).2 hbegins

end LiteralSet

/-! ## Pieces -/

/-- All recognizers are literals, and none goes over the end of a line. -/
def TokenTable.OneLine (t : TokenTable) : Prop :=
  ∀ d ∈ t.tokens, ∀ r ∈ d.spelledRecognizer, ∃ options, r = .literals options ∧
    ∀ l ∈ options, '\n' ∉ l.toList ∧ '\r' ∉ l.toList

/-- A matcher of literals in lines is a set of them. -/
theorem Matcher.oneLine_of_compile {d : TokenDecl} {m : Matcher} (h : compile d = .ok (some m))
    (hd : ∀ r ∈ d.spelledRecognizer, ∃ options, r = .literals options ∧
      ∀ l ∈ options, '\n' ∉ l.toList ∧ '\r' ∉ l.toList) :
    ∃ s, m = .literals s ∧ s.OneLine := by
  unfold compile at h
  cases hspelled : d.spelledRecognizer with
  | none =>
    rw [hspelled] at h
    cases h
  | some r =>
    obtain ⟨options, rfl, hoptions⟩ := hd r hspelled
    rw [hspelled] at h
    dsimp only at h
    cases hset : LiteralSet.ofList (options.map (·.toList)) d.tellsCase with
    | error f =>
      rw [hset] at h
      cases h
    | ok s =>
      rw [hset] at h
      cases h
      refine ⟨s, rfl, fun l hl => ?_⟩
      obtain ⟨option, hoption, rfl⟩ := List.mem_map.mp (((LiteralSet.of_ofList hset).2 l).mp hl)
      exact hoptions option hoption

namespace Piece

/-- The piece, with a carriage return in front of the newline in it. -/
def crlf : Piece → Piece
  | lineBreak _ => lineBreak true
  | joint skipped _ => joint skipped true
  | p => p

/-- No newline but that of a line break, and nothing is skipped in a joint. -/
def OneLine : Piece → Prop
  | lineBreak crlf => crlf = false
  | joint skipped crlf => skipped = [] ∧ crlf = false
  | p => '\n' ∉ p.text

theorem text_crlf {p : Piece} (h : p.OneLine) : p.crlf.text = Text.crlf p.text := by
  cases p with
  | lineBreak crlf =>
    cases h
    rfl
  | joint skipped crlf =>
    obtain ⟨rfl, rfl⟩ := h
    rfl
  | _ => exact (Text.crlf_of_notMem h).symm

@[simp] theorem endsLine_crlf (p : Piece) : p.crlf.endsLine = p.endsLine := by
  cases p <;> rfl

end Piece

theorem lineBreak?_eq_none {c : Char} (hnewline : c ≠ '\n') (hreturn : c ≠ '\r') (rest : Text) :
    lineBreak? (c :: rest) = none := by
  unfold lineBreak?
  split
  · next h => exact absurd (List.cons.inj h).1 hnewline
  · next h => exact absurd (List.cons.inj h).1 hreturn
  · rfl

theorem eq_false_of_lineBreak? {rest : Text} (hrest : '\r' ∉ rest) {crlf : Bool}
    (h : lineBreak? rest = some crlf) : crlf = false := by
  obtain ⟨after, rfl⟩ := eq_append_of_lineBreak? h
  cases crlf with
  | false => rfl
  | true => exact absurd List.mem_cons_self hrest

/-- A line break is found where the newline is. -/
theorem lineBreak?_crlf {rest : Text} (hrest : '\r' ∉ rest) :
    lineBreak? (Text.crlf rest) = (lineBreak? rest).map fun _ => true := by
  cases rest with
  | nil => rfl
  | cons c rest =>
    by_cases hc : c = '\n'
    · subst hc
      rfl
    · obtain ⟨hreturn, -⟩ := List.ne_and_not_mem_of_not_mem_cons hrest
      rw [Text.crlf_cons hc, lineBreak?_eq_none hc hreturn.symm,
        lineBreak?_eq_none hc hreturn.symm]
      rfl

namespace Lexer

theorem piece_append (lx : Lexer) (prev : Option Char) (c : Char) (rest : Text) :
    ∃ after, c :: rest = (lx.piece prev c rest).text ++ after ∧
      (lx.piece prev c rest).text ≠ [] := by
  have hprev : prev = prev.toList.getLast? := by cases prev <;> rfl
  obtain ⟨after, htext, hne, -⟩ := piece_spec lx prev.toList c rest
  rw [← hprev] at htext hne
  exact ⟨after, htext, hne⟩

/-- The lexer skips no comments, and all candidates are literals in a line. -/
structure OneLine (lx : Lexer) : Prop where
  comments : lx.comments = none
  roots : ∀ cand ∈ lx.roots, ∃ s, cand.2 = .literals s ∧ s.OneLine

theorem comments_ofTable {t : TokenTable} {options : LexerOptions} {lx : Lexer}
    (h : ofTable t options = .ok lx) (hnone : options.comments = none) : lx.comments = none := by
  unfold ofTable at h
  obtain ⟨eos, -, h⟩ := bind_eq_ok_iff.mp h
  obtain ⟨error, -, h⟩ := bind_eq_ok_iff.mp h
  dsimp only at h
  split at h
  · cases h
  obtain ⟨matchers, -, h⟩ := bind_eq_ok_iff.mp h
  split at h
  · cases h
  obtain ⟨comments, hcomments, h⟩ := bind_eq_ok_iff.mp h
  unfold commentPattern at hcomments
  rw [hnone] at hcomments
  cases hcomments
  cases h
  rfl

theorem oneLine_of_table {t : TokenTable} {options : LexerOptions} {lx : Lexer}
    (hlx : ofTable t options = .ok lx) (hcomments : options.comments = none) (ht : t.OneLine) :
    lx.OneLine := by
  have hmade := madeFrom_ofTable hlx
  refine ⟨comments_ofTable hlx hcomments, fun cand hcand => ?_⟩
  rw [hmade.roots] at hcand
  obtain ⟨d, hd, hcompile⟩ := exists_decl_of_matcher hmade (mem_candidatesAmong_iff.mp hcand).2
  exact Matcher.oneLine_of_compile hcompile (ht d hd)

variable {lx : Lexer} (hlx : lx.OneLine)
include hlx

theorem commentChars_eq_zero (prev : Option Char) (rest : Text) :
    lx.commentChars prev rest = 0 := by
  rw [commentChars, hlx.comments]
  rfl

/-- The same candidate is the best. -/
theorem best_crlf {c : Char} (hc : c ≠ '\n') (prev prev' : Option Char) (rest : Text) :
    lx.best prev' (c :: Text.crlf rest) = lx.best prev (c :: rest) := by
  refine List.foldl_ext _ _ _ fun best cand hcand => ?_
  obtain ⟨s, hcand, hs⟩ := hlx.roots cand hcand
  have hchars : s.matchChars (c :: Text.crlf rest) = s.matchChars (c :: rest) := by
    rw [← Text.crlf_cons hc]
    exact LiteralSet.matchChars_crlf hs _
  have htake : (c :: Text.crlf rest).take (s.matchChars (c :: rest)) =
      (c :: rest).take (s.matchChars (c :: rest)) := by
    rw [← Text.crlf_cons hc]
    exact Text.take_crlf (LiteralSet.newline_notMem_match hs _)
  unfold better Matcher.matchChars
  rw [hcand]
  dsimp only
  rw [hchars, htake]

/-- The best candidate goes over no newline. -/
theorem newline_notMem_best {prev : Option Char} {rest : Text} {b : Best}
    (h : lx.best prev rest = some b) : '\n' ∉ rest.take b.chars := by
  refine forall_best (P := fun b => '\n' ∉ rest.take b.chars) (fun cand hcand _ => ?_) h
  obtain ⟨s, hcand, hs⟩ := hlx.roots cand hcand
  rw [hcand]
  exact LiteralSet.newline_notMem_match hs rest

/-- The lexeme of the best candidate, or a stray character. -/
def bestPiece (lx : Lexer) (prev : Option Char) (c : Char) (rest : Text) : Piece :=
  (lx.best prev (c :: rest)).elim (.stray c) fun b =>
    .lexeme (lx.refine b.token ((c :: rest).take b.chars)) ((c :: rest).take b.chars)

theorem bestPiece_crlf {c : Char} (hnewline : c ≠ '\n') (prev prev' : Option Char) (rest : Text) :
    lx.bestPiece prev' c (Text.crlf rest) = (lx.bestPiece prev c rest).crlf ∧
      (lx.bestPiece prev c rest).OneLine := by
  unfold bestPiece
  rw [best_crlf hlx hnewline prev prev']
  cases hb : lx.best prev (c :: rest) with
  | none => exact ⟨rfl, fun h => hnewline (List.mem_singleton.mp h).symm⟩
  | some b =>
    have hflat := newline_notMem_best hlx hb
    have htake : (c :: Text.crlf rest).take b.chars = (c :: rest).take b.chars := by
      rw [← Text.crlf_cons hnewline]
      exact Text.take_crlf hflat
    dsimp only [Option.elim]
    rw [htake]
    exact ⟨rfl, hflat⟩

/-- Where no comment can begin, a piece inside a line is a joint, or what is best. -/
theorem piece_inside {c : Char} (hindents : indents c = false) (hnewline : c ≠ '\n')
    (hreturn : c ≠ '\r') (prev : Option Char) (rest : Text) :
    lx.piece prev c rest =
      (if c = '\\' && lx.options.escapeNewlines then lx.joint? rest else none).getD
        (lx.bestPiece prev c rest) := by
  unfold piece bestPiece
  rw [hindents, if_neg Bool.false_ne_true, if_neg hnewline, if_neg hreturn,
    commentChars_eq_zero hlx]
  dsimp only
  rw [if_neg (not_not_intro rfl)]
  cases (if c = '\\' && lx.options.escapeNewlines then lx.joint? rest else none) with
  | some p => rfl
  | none => cases lx.best prev (c :: rest) <;> rfl

variable {rest : Text} (hrest : '\r' ∉ rest)
include hrest

/-- Lines are joined alike, and nothing is skipped before the newline. -/
theorem joint?_crlf : lx.joint? (Text.crlf rest) = (lx.joint? rest).map Piece.crlf ∧
    ∀ p ∈ lx.joint? rest, p.OneLine := by
  unfold joint?
  rw [commentChars_eq_zero hlx, commentChars_eq_zero hlx]
  dsimp only
  rw [List.drop_zero, List.drop_zero, lineBreak?_crlf hrest]
  refine ⟨by simp [Function.comp_def, Piece.crlf], fun p hp => ?_⟩
  obtain ⟨crlf, hbreak, rfl⟩ := Option.map_eq_some_iff.mp hp
  exact ⟨rfl, eq_false_of_lineBreak? hrest hbreak⟩

/-- The same piece is found inside a line, and there is no newline in it but that of a
joint. -/
theorem piece_crlf {c : Char} (hnewline : c ≠ '\n') (hreturn : c ≠ '\r')
    (prev prev' : Option Char) :
    lx.piece prev' c (Text.crlf rest) = (lx.piece prev c rest).crlf ∧
      (lx.piece prev c rest).OneLine := by
  cases hindents : indents c with
  | true =>
    have hblank : ∀ prev rest, lx.piece prev c rest = .blank c := fun prev rest => if_pos hindents
    rw [hblank, hblank]
    exact ⟨rfl, fun h => hnewline (List.mem_singleton.mp h).symm⟩
  | false =>
    have hbest := bestPiece_crlf hlx hnewline prev prev' rest
    rw [piece_inside hlx hindents hnewline hreturn, piece_inside hlx hindents hnewline hreturn]
    split
    · obtain ⟨hjoint, honeLine⟩ := joint?_crlf hlx hrest
      rw [hjoint]
      cases hj : lx.joint? rest with
      | some p => exact ⟨rfl, honeLine p hj⟩
      | none => exact hbest
    · exact hbest

/-- A margin is found alike. -/
theorem margin?_crlf (prev prev' : Option Char) :
    lx.margin? prev' (Text.crlf rest) = lx.margin? prev rest := by
  have hafter : '\r' ∉ rest.drop (rest.takeWhile indents).length :=
    fun h => hrest (List.mem_of_mem_drop h)
  unfold margin?
  dsimp only
  rw [commentChars_eq_zero hlx, commentChars_eq_zero hlx, Text.takeWhile_indents_crlf,
    List.drop_zero, List.drop_zero, Text.drop_blanks_crlf, lineBreak?_crlf hafter]
  have hempty : (Text.crlf (rest.drop (rest.takeWhile indents).length)).isEmpty =
      (rest.drop (rest.takeWhile indents).length).isEmpty := by
    rw [Bool.eq_iff_iff, List.isEmpty_iff, List.isEmpty_iff, Text.crlf_eq_nil_iff]
  rw [hempty, Option.isSome_map]

/-- What is cut off the front of the two texts is the same piece. -/
theorem exists_piece_crlf {c : Char} (hreturn : c ≠ '\r') (prev prev' : Option Char) :
    ∃ c' rest', Text.crlf (c :: rest) = c' :: rest' ∧
      lx.piece prev' c' rest' = (lx.piece prev c rest).crlf ∧ (lx.piece prev c rest).OneLine := by
  by_cases hnewline : c = '\n'
  · subst hnewline
    exact ⟨'\r', '\n' :: Text.crlf rest, rfl, rfl, rfl⟩
  · exact ⟨c, Text.crlf rest, Text.crlf_cons hnewline rest,
      piece_crlf hlx hrest hnewline hreturn prev prev'⟩

/-- The pieces are the same but for the line breaks, and there are no other newlines in
them. -/
theorem piecesFrom_crlf (prev prev' : Option Char) (atLineStart : Bool) :
    lx.piecesFrom prev' atLineStart (Text.crlf rest) =
        (lx.piecesFrom prev atLineStart rest).map Piece.crlf ∧
      ∀ p ∈ lx.piecesFrom prev atLineStart rest, p.OneLine := by
  fun_induction piecesFrom lx prev atLineStart rest generalizing prev' with
  | case1 prev rest blanks hmargin ih =>
    obtain rfl := margin?_spec hmargin
    obtain ⟨hpieces, honeLine⟩ := ih (fun h => hrest (List.mem_of_mem_drop h))
      (lastChar prev' (rest.takeWhile indents))
    rw [piecesFrom_lineStart, margin?_crlf hlx hrest prev prev', hmargin]
    dsimp only
    rw [Text.drop_blanks_crlf, hpieces]
    exact ⟨rfl, List.forall_mem_cons.mpr ⟨Text.newline_notMem_takeWhile_indents rest, honeLine⟩⟩
  | case2 prev rest hmargin ih =>
    rw [piecesFrom_lineStart, margin?_crlf hlx hrest prev prev', hmargin]
    exact ih hrest prev'
  | case3 prev atLineStart hstart =>
    rw [Bool.eq_false_iff.mpr hstart, Text.crlf_nil, piecesFrom]
    simp
  | case4 prev atLineStart hstart c rest p ih =>
    obtain ⟨hreturn, hrest⟩ := List.ne_and_not_mem_of_not_mem_cons hrest
    obtain ⟨c', rest', hfront, hpiece, honeLine⟩ :=
      exists_piece_crlf hlx hrest hreturn.symm prev prev'
    obtain ⟨after, htext, hne⟩ := piece_append lx prev c rest
    have hfront' : c' :: rest' = p.crlf.text ++ Text.crlf after := by
      rw [← hfront, htext, Text.crlf_append, Piece.text_crlf honeLine]
    have hne' : p.crlf.text ≠ [] := by
      rw [Piece.text_crlf honeLine]
      exact mt Text.crlf_eq_nil_iff.mp hne
    have hdrop : rest.drop (p.text.length - 1) = after := drop_of_cons_eq_append htext hne
    have hafter : '\r' ∉ rest.drop (p.text.length - 1) := fun h => hrest (List.mem_of_mem_drop h)
    obtain ⟨hpieces, hall⟩ := ih hafter (lastChar prev' p.crlf.text)
    rw [Bool.eq_false_iff.mpr hstart, hfront, piecesFrom, if_neg Bool.false_ne_true]
    dsimp only
    rw [hpiece, drop_of_cons_eq_append hfront' hne', Piece.endsLine_crlf, ← hdrop, hpieces]
    exact ⟨rfl, List.forall_mem_cons.mpr ⟨honeLine, hall⟩⟩

end Lexer
end GrammarKit
