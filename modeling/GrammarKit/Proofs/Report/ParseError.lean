import GrammarKit.Proofs.Lexing.Covers
import GrammarKit.Report.ParseError

/-!
# Where parse errors point and what they name

An error at an occurrence of a lexed text points at the occurrence, or at the character
that follows if it has no length, or at the byte behind the text if no character follows
(`PointsAt`). What shows is quoted; what belongs to the layout goes by its name
(`ofLexed_wellPlaced`).

The three ways in which an occurrence has no text, at the end, in front of a line break
and without length, are those in which it belongs to the layout, as a lexeme or an error
always shows (`Covers`).
-/
namespace GrammarKit

/-- The span begins with the occurrence, is not empty, and lies between characters of the
text or is the byte behind it. It is the occurrence, or one character if that is empty. -/
structure PointsAt (text : Text) (o : Occurrence) (span : Span) : Prop where
  start_eq : span.range.1 = o.start
  not_empty : span.range.1 < span.range.2
  place : (∃ before u after, text = before ++ (u ++ after) ∧
      span.range = (Text.bytes before, Text.bytes (before ++ u)) ∧
      (o.len = Text.bytes u ∨ o.len = 0 ∧ u.length = 1)) ∨
    span.range = (Text.bytes text, Text.bytes text + 1) ∧ o.len = 0

namespace ParseError

variable {l : Lexed} {i : Nat} {o : Occurrence} {expected : List TokenId} {t : TokenTable}
  {naming : Naming}

/-! ## Where an error points -/

/-- The character at an offset gives its width. -/
theorem charBytesAt_append (before : Text) (c : Char) (after : Text) :
    charBytesAt (before ++ c :: after) (Text.bytes before) = c.utf8Size := by
  unfold charBytesAt
  rw [Text.dropBytes?_append]

theorem charBytesAt_bytes (text : Text) : charBytesAt text (Text.bytes text) = 1 := by
  have hdrop := Text.dropBytes?_append text []
  rw [List.append_nil] at hdrop
  unfold charBytesAt
  rw [hdrop]

/-- Bytes that an error at an occurrence points at. -/
def bytesAt (text : Text) (o : Occurrence) : Nat :=
  if o.len = 0 then charBytesAt text o.start else o.len

theorem bytesAt_pos (text : Text) (o : Occurrence) : 0 < bytesAt text o := by
  unfold bytesAt charBytesAt
  split
  · split
    · next c _ _ => exact c.utf8Size_pos
    · exact Nat.one_pos
  · next hlen => exact Nat.pos_of_ne_zero hlen

/-- An error at a stretch of the text points at it, or at what follows. -/
theorem pointsAt_of_onText (h : OnText l.text o) :
    PointsAt l.text o (Span.atLeastOne ⟨l.location o.start, bytesAt l.text o⟩) := by
  have hpos := bytesAt_pos l.text o
  have hspan : Span.atLeastOne ⟨l.location o.start, bytesAt l.text o⟩ =
      ⟨l.location o.start, bytesAt l.text o⟩ := if_neg (Nat.ne_of_gt hpos)
  have hrange : (Span.mk (l.location o.start) (bytesAt l.text o)).range =
      (o.start, o.start + bytesAt l.text o) := rfl
  obtain ⟨before, u, after, htext, hstart, hlen⟩ := h
  rw [hspan]
  refine ⟨rfl, Nat.lt_add_of_pos_right hpos, ?_⟩
  rw [hrange, hstart, bytesAt]
  split
  · next hzero =>
    have hu : u = [] := Text.bytes_eq_zero_iff.mp (hlen.symm.trans hzero)
    subst hu
    cases after with
    | nil =>
      have hend : Text.bytes before = Text.bytes l.text := by simp [htext]
      rw [hend, hstart, hend, charBytesAt_bytes]
      exact .inr ⟨rfl, hzero⟩
    | cons c after =>
      refine .inl ⟨before, [c], after, htext, ?_, .inr ⟨hzero, rfl⟩⟩
      rw [hstart, htext, List.nil_append, charBytesAt_append, Text.bytes_append]
      rfl
  · refine .inl ⟨before, u, after, htext, ?_, .inl hlen⟩
    rw [hlen, Text.bytes_append]

/-! ## What an error names -/

/-- The parts of the error at an occurrence whose text is known. -/
theorem ofLexed_eq {u : Text} {found : String} (hi : l.occurrences[i]? = some o)
    (htext : l.textOf o = .ok u)
    (hfound : (if u.isEmpty then t.name o.token else .ok (String.ofList u)) = .ok found) :
    ofLexed l i expected t naming = .ok (of found (expected.map (nameOf naming t expected))
      ⟨l.location o.start, bytesAt l.text o⟩) := by
  unfold ofLexed
  rw [Lexed.occurrence_eq_ok_iff.mpr hi, ok_bind, htext, ok_bind]
  dsimp only
  split at hfound
  · next hu =>
    rw [if_pos hu, hfound]
    rfl
  · next hu =>
    cases hfound
    rw [if_neg hu]
    rfl

/-- A token that plays a role is in the table, so it has a name. -/
theorem exists_name_of_role (hfit : TokenTable.RolesFit t.tokens t.roles) {role : Role}
    {token : TokenId} (h : t.role? role = some token) : ∃ name, t.name token = .ok name := by
  obtain ⟨d, hd, -⟩ := hfit role token h
  refine ⟨d.name, ?_⟩
  unfold TokenTable.name TokenTable.get?
  rw [hd]
  rfl

/-- A token that shows is none of the layout. -/
theorem not_role_of_recognizes {lx : Lexer} (hlx : lx.MadeFrom t)
    (hfit : TokenTable.RolesFit t.tokens t.roles) {token : TokenId}
    (h : lx.Recognizes token ∨ t.role? .error = some token) :
    ¬ ∃ role, role ≠ .error ∧ t.role? role = some token := by
  rintro ⟨role, hne, hrole⟩
  rcases h with hrec | herror
  · exact Lexer.not_recognizes_role hlx hfit hrole hrec
  · exact hne (TokenTable.role?_inj hfit hrole herror)

/-- **Parse errors are well placed.** There is an error at every occurrence of a lexed
text. It points at the occurrence, or at what follows. It quotes a lexeme and stray
characters, which are not empty, and calls a token of the layout by its name; there are
no others. It has one name for each expected token, in order. -/
theorem ofLexed_wellPlaced {decls : List TokenDecl} {options : LexerOptions} {lx : Lexer}
    (ht : TokenTable.ofDecls decls = .ok t) (hlx : Lexer.ofTable t options = .ok lx) {text : Text}
    (hi : (lx.lex text).occurrences[i]? = some o) (expected : List TokenId) (naming : Naming) :
    ∃ e, ofLexed (lx.lex text) i expected t naming = .ok e ∧
      PointsAt text o e.span ∧
      (lx.Recognizes o.token ∨ t.role? .error = some o.token →
        e.found ≠ "" ∧ text.slice? o.start o.stop = some e.found.toList) ∧
      ((∃ role, role ≠ .error ∧ t.role? role = some o.token) → t.name o.token = .ok e.found) ∧
      (lx.Recognizes o.token ∨ ∃ role, t.role? role = some o.token) ∧
      e.expected = expected.map (nameOf naming t expected) := by
  have hfit := TokenTable.rolesFit_ofDecls ht
  have hmade := Lexer.madeFrom_ofTable hlx
  have hmem := List.mem_of_getElem? hi
  have hpoints := pointsAt_of_onText (l := lx.lex text) (Lexer.onText_lex lx text o hmem)
  cases Lexer.covers_lex hmade text o hmem with
  | @shown before u after htext hstart hlen hu htoken =>
    have htextOf := Lexed.textOf_of_shows (l := lx.lex text) htext hstart hlen hu
    have htoken : lx.Recognizes o.token ∨ t.role? .error = some o.token := by
      refine htoken.imp_right fun herror => ?_
      rw [herror]
      exact hmade.error
    obtain ⟨c, cs, rfl, -⟩ := hu
    refine ⟨_, ofLexed_eq hi htextOf rfl, hpoints, fun _ => ⟨?_, ?_⟩, fun hrole => ?_,
      htoken.imp_right fun herror => ⟨_, herror⟩, rfl⟩
    · exact fun hnil => List.cons_ne_nil c cs (String.ofList_eq_empty_iff.mp hnil)
    · rw [htext, Occurrence.stop, hstart, hlen, Text.slice?_append]
      simp [of]
    · exact absurd hrole (not_role_of_recognizes hmade hfit htoken)
  | layout htext hstart hlen hu hlays =>
    have htextOf := Lexed.textOf_of_layout (l := lx.lex text) htext hstart hlen hu
    obtain ⟨role, hne, hrole⟩ := Lexer.role_of_lays hmade hlays
    obtain ⟨name, hname⟩ := exists_name_of_role hfit hrole
    refine ⟨_, ofLexed_eq hi htextOf hname, hpoints, fun hshown => ?_, fun _ => hname,
      .inr ⟨role, hrole⟩, rfl⟩
    exact absurd ⟨role, hne, hrole⟩ (not_role_of_recognizes hmade hfit hshown)

/-- An indent in front of a letter of two bytes. -/
def indented : Text := "a\n  é".toList

/-- The error at this indent has its name and points at the letter. -/
theorem ofLexed_indented :
    ∃ lx e, Lexer.ofTable Lexer.outlineTable .default = .ok lx ∧
      (lx.lex indented).occurrences[2]? = some ⟨2, 4, 0⟩ ∧
      ofLexed (lx.lex indented) 2 [5] Lexer.outlineTable .none = .ok e ∧
      PointsAt indented ⟨2, 4, 0⟩ e.span ∧ e.span.range = (4, 6) ∧ e.found = "Indent" ∧
      e.expected = ["`Word`"] := by
  have heval : (Lexer.ofTable Lexer.outlineTable .default).map (fun lx =>
      ((lx.lex indented).occurrences[2]?,
        (ofLexed (lx.lex indented) 2 [5] Lexer.outlineTable .none).map (·.span.range))) =
      .ok (some ⟨2, 4, 0⟩, .ok (4, 6)) := by cbv
  cases hlx : Lexer.ofTable Lexer.outlineTable .default with
  | error e =>
    rw [hlx] at heval
    cases heval
  | ok lx =>
    rw [hlx] at heval
    obtain ⟨hi, hrange⟩ := Prod.mk.inj (Except.ok.inj heval)
    have ht : TokenTable.ofDecls Lexer.outlineTable.tokens = .ok Lexer.outlineTable := by cbv
    obtain ⟨e, he, hpoints, -, hlayout, -, hexpected⟩ :=
      ofLexed_wellPlaced ht hlx hi [5] .none
    have hname : Lexer.outlineTable.name 2 = .ok e.found := hlayout ⟨.indent, by decide, rfl⟩
    rw [he] at hrange
    refine ⟨lx, e, rfl, hi, he, hpoints, Except.ok.inj hrange, ?_, ?_⟩
    · exact (Except.ok.inj hname).symm
    · rw [hexpected]
      decide

end ParseError
end GrammarKit
