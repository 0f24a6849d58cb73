import GrammarKit.Lexing.Piece

/-!
# Pieces make up the text

`pieces_cuts`: written one after the other, the pieces of a text are the text,
and each is one that may be cut off where it stands (`Cut`). A comment is all
that the comment pattern matches there, a joint has a line break at its end, and
a lexeme is not empty.
-/
namespace GrammarKit

/-- The piece may be cut off the front of what follows `before`; `after` is then left. -/
inductive Cut (lx : Lexer) (before after : Text) : Piece → Prop where
  | margin {blanks : Text} : (∀ c ∈ blanks, indents c = true) → Cut lx before after (.margin blanks)
  | blank {c : Char} : indents c = true ∨ c = '\r' → Cut lx before after (.blank c)
  | lineBreak (crlf : Bool) : Cut lx before after (.lineBreak crlf)
  | comment {u : Text} : u ≠ [] →
      u = (u ++ after).take (lx.commentChars before.getLast? (u ++ after)) →
      Cut lx before after (.comment u)
  | joint {u : Text} {crlf : Bool} : lx.options.escapeNewlines = true →
      u = (u ++ (breakText crlf ++ after)).take
        (lx.commentChars (some '\\') (u ++ (breakText crlf ++ after))) →
      Cut lx before after (.joint u crlf)
  | lexeme {t : TokenId} {u : Text} : u ≠ [] → Cut lx before after (.lexeme t u)
  | stray (c : Char) : Cut lx before after (.stray c)

/-- Every piece has text, but for a margin. -/
theorem Cut.text_ne {lx : Lexer} {before after : Text} {p : Piece} (h : Cut lx before after p)
    (hp : ∀ blanks, p ≠ .margin blanks) : p.text ≠ [] := by
  cases h with
  | margin _ => exact absurd rfl (hp _)
  | lineBreak crlf => cases crlf <;> exact List.cons_ne_nil _ _
  | comment hne _ => exact hne
  | lexeme hne => exact hne
  | _ => exact List.cons_ne_nil _ _

/-- The pieces make up the text that follows `before`. -/
inductive Cuts (lx : Lexer) : (before rest : Text) → List Piece → Prop where
  | nil {before : Text} : Cuts lx before [] []
  | cons {before after : Text} {p : Piece} {ps : List Piece} : Cut lx before after p →
      Cuts lx (before ++ p.text) after ps → Cuts lx before (p.text ++ after) (p :: ps)

theorem Cuts.exists_cut {lx : Lexer} {before rest : Text} {ps : List Piece}
    (h : Cuts lx before rest ps) {p : Piece} (hp : p ∈ ps) :
    ∃ before after, Cut lx before after p := by
  induction h with
  | nil => cases hp
  | cons hcut _ ih =>
    rcases List.mem_cons.mp hp with rfl | hp
    · exact ⟨_, _, hcut⟩
    · exact ih hp

theorem getLast?_append_eq_lastChar (before u : Text) :
    (before ++ u).getLast? = lastChar before.getLast? u := by
  rw [lastChar, List.getLast?_append]

theorem takeWhile_append_drop (f : Char → Bool) (text : Text) :
    text.takeWhile f ++ text.drop (text.takeWhile f).length = text :=
  List.prefix_iff_eq_append.mp (List.takeWhile_prefix f)

theorem eq_append_of_lineBreak? {text : Text} {crlf : Bool} (h : lineBreak? text = some crlf) :
    ∃ after, text = breakText crlf ++ after := by
  unfold lineBreak? at h
  split at h
  · cases h
    exact ⟨_, rfl⟩
  · cases h
    exact ⟨_, rfl⟩
  · cases h

namespace Lexer

variable {lx : Lexer}

/-! ## One piece -/

/-- The best candidate is one of the roots, with the match that it has here. -/
theorem forall_best {P : Best → Prop} {prev : Option Char} {rest : Text}
    (hroots : ∀ cand ∈ lx.roots, 0 < Text.bytes (rest.take (cand.2.matchChars prev rest)) →
      P ⟨cand.1, cand.2.matchChars prev rest,
        Text.bytes (rest.take (cand.2.matchChars prev rest))⟩)
    {b : Best} (h : lx.best prev rest = some b) : P b := by
  have hfold : ∀ (c : Char) (cands : List Candidate) (start : Option Best),
      (∀ cand ∈ cands, cand ∈ lx.roots) → (∀ b ∈ start, P b) →
      ∀ b ∈ cands.foldl (better prev c rest) start, P b := by
    intro c cands
    induction cands with
    | nil => exact fun _ _ hstart => hstart
    | cons cand cands ih =>
      intro start hcands hstart
      obtain ⟨hcand, hcands⟩ := List.forall_mem_cons.mp hcands
      apply ih _ hcands
      unfold better
      dsimp only
      split
      · exact hstart
      · split
        · next hlt =>
          intro b hb
          cases hb
          exact hroots cand hcand (Nat.lt_of_le_of_lt (Nat.zero_le _) hlt)
        · exact hstart
  cases rest with
  | nil => cases h
  | cons c rest => exact hfold c lx.roots none (fun _ hcand => hcand) (by simp) b h

/-- The best candidate matches something. -/
theorem best_spec {prev : Option Char} {rest : Text} {b : Best} (h : lx.best prev rest = some b) :
    rest.take b.chars ≠ [] := by
  have hpos : 0 < Text.bytes (rest.take b.chars) :=
    forall_best (P := fun b => 0 < Text.bytes (rest.take b.chars)) (fun _ _ hpos => hpos) h
  intro hnil
  rw [hnil] at hpos
  exact absurd hpos (Nat.lt_irrefl 0)

theorem best_bytes {prev : Option Char} {rest : Text} {b : Best} (h : lx.best prev rest = some b) :
    b.bytes = Text.bytes (rest.take b.chars) :=
  forall_best (P := fun b => b.bytes = Text.bytes (rest.take b.chars)) (fun _ _ _ => rfl) h

/-- A joint is a backslash, a comment if there is one, and a line break. -/
theorem joint?_spec {before rest : Text} {p : Piece} (hesc : lx.options.escapeNewlines = true)
    (h : lx.joint? rest = some p) : ∃ after, '\\' :: rest = p.text ++ after ∧ p.text ≠ [] ∧
      Cut lx before after p := by
  unfold joint? at h
  obtain ⟨crlf, hbreak, rfl⟩ := Option.map_eq_some_iff.mp h
  obtain ⟨after, hafter⟩ := eq_append_of_lineBreak? hbreak
  have hrest :
      rest.take (lx.commentChars (some '\\') rest) ++ (breakText crlf ++ after) = rest := by
    rw [← hafter, List.take_append_drop]
  refine ⟨after, by simp [Piece.text, hrest], by simp [Piece.text], .joint hesc ?_⟩
  rw [hrest]

/-- A comment is what the comment pattern matches. -/
theorem comment_spec {before text : Text} (hne : text ≠ [])
    (hn : lx.commentChars before.getLast? text ≠ 0) :
    ∃ after, text = text.take (lx.commentChars before.getLast? text) ++ after ∧
      text.take (lx.commentChars before.getLast? text) ≠ [] ∧
      Cut lx before after (.comment (text.take (lx.commentChars before.getLast? text))) := by
  have htext := List.take_append_drop (lx.commentChars before.getLast? text) text
  have htake : text.take (lx.commentChars before.getLast? text) ≠ [] := by
    intro hnil
    rcases List.take_eq_nil_iff.mp hnil with h | h
    · exact hn h
    · exact hne h
  refine ⟨_, htext.symm, htake, .comment htake ?_⟩
  rw [htext]

/-- A piece is cut off the front of the text. -/
theorem piece_spec (lx : Lexer) (before : Text) (c : Char) (rest : Text) :
    ∃ after, c :: rest = (lx.piece before.getLast? c rest).text ++ after ∧
      (lx.piece before.getLast? c rest).text ≠ [] ∧
      Cut lx before after (lx.piece before.getLast? c rest) := by
  unfold piece
  split
  · next hc => exact ⟨rest, rfl, List.cons_ne_nil _ _, .blank (Or.inl hc)⟩
  split
  · next hc =>
    subst hc
    exact ⟨rest, rfl, List.cons_ne_nil _ _, .lineBreak false⟩
  split
  · next hc =>
    subst hc
    split
    · next hhead =>
      obtain ⟨rest', rfl⟩ := List.head?_eq_some_iff.mp hhead
      exact ⟨rest', rfl, List.cons_ne_nil _ _, .lineBreak true⟩
    · exact ⟨rest, rfl, List.cons_ne_nil _ _, .blank (Or.inr rfl)⟩
  dsimp only
  split
  · next hn => exact comment_spec (List.cons_ne_nil c rest) hn
  split
  · next p hp =>
    split at hp
    · next hesc =>
      obtain ⟨hc, hesc⟩ := Bool.and_eq_true_iff.mp hesc
      have hc : c = '\\' := of_decide_eq_true hc
      subst hc
      exact joint?_spec hesc hp
    · cases hp
  · split
    · next b hb =>
      exact ⟨_, (List.take_append_drop b.chars (c :: rest)).symm, best_spec hb,
        .lexeme (best_spec hb)⟩
    · exact ⟨rest, rfl, List.cons_ne_nil _ _, .stray c⟩

/-- A piece inside a line: a lexeme is what the best candidate matches, and a
stray character is no newline. -/
theorem piece_cases (lx : Lexer) (prev : Option Char) (c : Char) (rest : Text) :
    (∃ d, lx.piece prev c rest = .blank d) ∨ (∃ crlf, lx.piece prev c rest = .lineBreak crlf) ∨
      (∃ u, lx.piece prev c rest = .comment u) ∨
      (∃ u crlf, lx.piece prev c rest = .joint u crlf) ∨
      (∃ b, lx.best prev (c :: rest) = some b ∧ lx.piece prev c rest =
        .lexeme (lx.refine b.token ((c :: rest).take b.chars)) ((c :: rest).take b.chars)) ∨
      (c ≠ '\n' ∧ lx.piece prev c rest = .stray c) := by
  unfold piece
  split
  · exact Or.inl ⟨c, rfl⟩
  split
  · exact Or.inr (Or.inl ⟨false, rfl⟩)
  next hnewline =>
  split
  · split
    · exact Or.inr (Or.inl ⟨true, rfl⟩)
    · exact Or.inl ⟨c, rfl⟩
  dsimp only
  split
  · exact Or.inr (Or.inr (Or.inl ⟨_, rfl⟩))
  split
  · next p hp =>
    split at hp
    · obtain ⟨crlf, -, rfl⟩ := Option.map_eq_some_iff.mp hp
      exact Or.inr (Or.inr (Or.inr (Or.inl ⟨_, crlf, rfl⟩)))
    · cases hp
  · split
    · next b hb => exact Or.inr (Or.inr (Or.inr (Or.inr (Or.inl ⟨b, hb, rfl⟩))))
    · exact Or.inr (Or.inr (Or.inr (Or.inr (Or.inr ⟨hnewline, rfl⟩))))

/-! ## All pieces -/

/-- What is left when a piece is cut off. -/
theorem drop_of_cons_eq_append {c : Char} {rest u after : Text} (h : c :: rest = u ++ after)
    (hne : u ≠ []) : rest.drop (u.length - 1) = after := by
  obtain ⟨c', u', rfl⟩ := List.exists_cons_of_ne_nil hne
  rw [(List.cons.inj h).2]
  exact List.drop_left

theorem margin?_spec {prev : Option Char} {rest blanks : Text}
    (h : lx.margin? prev rest = some blanks) : blanks = rest.takeWhile indents := by
  unfold margin? at h
  split at h
  · cases h
  · dsimp only at h
    split at h
    · cases h
    · exact (Option.some.inj h).symm

theorem margin?_append {prev : Option Char} {rest blanks : Text}
    (h : lx.margin? prev rest = some blanks) : blanks ++ rest.drop blanks.length = rest := by
  rw [margin?_spec h]
  exact takeWhile_append_drop indents rest

/-- At the start of a line a margin comes first, if there is one. -/
theorem piecesFrom_lineStart (lx : Lexer) (prev : Option Char) (rest : Text) :
    lx.piecesFrom prev true rest = match lx.margin? prev rest with
      | some blanks =>
        .margin blanks :: lx.piecesFrom (lastChar prev blanks) false (rest.drop blanks.length)
      | none => lx.piecesFrom prev false rest := by
  rw [piecesFrom.eq_def]
  exact if_pos rfl

theorem piecesFrom_cuts (before : Text) (atLineStart : Bool) (rest : Text) :
    Cuts lx before rest (lx.piecesFrom before.getLast? atLineStart rest) := by
  generalize hprev : before.getLast? = prev
  fun_induction piecesFrom lx prev atLineStart rest generalizing before with
  | case1 prev rest blanks hmargin ih =>
    subst hprev
    have hblanks := margin?_spec hmargin
    have hsplit := margin?_append hmargin
    have hrest := ih (before ++ blanks) (getLast?_append_eq_lastChar before blanks)
    have hcut : Cut lx before (rest.drop blanks.length) (.margin blanks) := by
      refine .margin fun c hc => ?_
      rw [hblanks] at hc
      exact List.all_eq_true.mp List.all_takeWhile c hc
    have := Cuts.cons hcut hrest
    rwa [show Piece.text (.margin blanks) = blanks from rfl, hsplit] at this
  | case2 prev rest hmargin ih => exact ih before hprev
  | case3 => exact .nil
  | case4 prev _ _ c rest p ih =>
    subst hprev
    obtain ⟨after, htext, hne, hcut⟩ := piece_spec lx before c rest
    have hdrop : rest.drop (p.text.length - 1) = after := drop_of_cons_eq_append htext hne
    rw [hdrop] at ih ⊢
    rw [htext]
    exact .cons hcut (ih (before ++ p.text) (getLast?_append_eq_lastChar before p.text))

/-- **Nothing is lost.** The pieces of a text make up the text. -/
theorem pieces_cuts (lx : Lexer) (text : Text) : Cuts lx [] text (lx.pieces text) :=
  piecesFrom_cuts [] true text

end Lexer
end GrammarKit
