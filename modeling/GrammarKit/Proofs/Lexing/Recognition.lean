import GrammarKit.Lexing.Piece
import GrammarKit.Proofs.Lexing.Pieces
import GrammarKit.Proofs.Token.Table

/-!
# Which tokens a lexeme can get

A lexer made from a table (`MadeFrom`) tries only tokens that have a matcher, so
every lexeme gets such a token (`recognized_of_lexeme`). A token that plays a
role has none, so no lexeme is taken for one (`lexeme_ne_role`).
-/
namespace GrammarKit

/-- Matchers that are made for tokens are at the places of the tokens. -/
theorem compile_of_mapM {decls : List TokenDecl} {matchers : List (Option Matcher)}
    (h : decls.mapM Matcher.compile = .ok matchers) (id : TokenId) {d : TokenDecl}
    (hd : decls[id]? = some d) : ∃ m, matchers[id]? = some m ∧ Matcher.compile d = .ok m := by
  induction decls generalizing matchers id with
  | nil => cases hd
  | cons d' decls ih =>
    rw [List.mapM_cons] at h
    obtain ⟨m, hm, h⟩ := bind_eq_ok_iff.mp h
    obtain ⟨ms, hms, h⟩ := bind_eq_ok_iff.mp h
    cases h
    cases id with
    | zero =>
      cases hd
      exact ⟨m, rfl, hm⟩
    | succ id => exact ih hms id hd

namespace Lexer

/-- What a lexer takes over from its table. -/
structure MadeFrom (lx : Lexer) (t : TokenTable) : Prop where
  matchers : t.tokens.mapM Matcher.compile = .ok lx.matchers
  roots : lx.roots = candidatesAmong lx.matchers t.roots
  children : lx.children = ((List.range t.size).map fun id =>
    candidatesAmong lx.matchers ((t.children id).map (·.1))).toArray
  endOfStream : t.role? .endOfStream = some lx.endOfStream
  error : t.role? .error = some lx.error
  endOfLine : t.role? .endOfLine = lx.endOfLine
  indentation : lx.indentation = (t.role? .indent).bind fun indent =>
    (t.role? .dedent).map fun dedent => (indent, dedent)

theorem needRole_ok {t : TokenTable} {role : Role} {id : TokenId} (h : needRole t role = .ok id) :
    t.role? role = some id := by
  unfold needRole at h
  split at h
  · cases h
    assumption
  · cases h

theorem madeFrom_ofTable {t : TokenTable} {options : LexerOptions} {lx : Lexer}
    (h : ofTable t options = .ok lx) : lx.MadeFrom t := by
  unfold ofTable at h
  obtain ⟨eos, heos, h⟩ := bind_eq_ok_iff.mp h
  obtain ⟨error, herror, h⟩ := bind_eq_ok_iff.mp h
  dsimp only at h
  split at h
  · cases h
  obtain ⟨matchers, hmatchers, h⟩ := bind_eq_ok_iff.mp h
  split at h
  · cases h
  obtain ⟨comments, -, h⟩ := bind_eq_ok_iff.mp h
  cases h
  exact ⟨hmatchers, rfl, rfl, needRole_ok heos, needRole_ok herror, rfl, rfl⟩

variable {lx : Lexer} {t : TokenTable}

/-- The candidates that refine a token are made of its children. -/
theorem MadeFrom.children_getD (hlx : lx.MadeFrom t) {id : TokenId} (hid : id < t.size) :
    lx.children.getD id [] = candidatesAmong lx.matchers ((t.children id).map (·.1)) := by
  rw [hlx.children, Array.getD_eq_getD_getElem?, List.getElem?_toArray, List.getElem?_map,
    List.getElem?_range hid]
  rfl

/-- A lexer without matcher for a token does not tell it by its text. -/
def Recognizes (lx : Lexer) (token : TokenId) : Prop := ∃ m, lx.matcher? token = some m

/-- Candidates are among the tokens that they are taken from. -/
theorem mem_of_mem_candidatesAmong {ids : List TokenId} {cand : Candidate}
    (h : cand ∈ candidatesAmong lx.matchers ids) : cand.1 ∈ ids := by
  obtain ⟨id, hmem, hid⟩ := List.mem_filterMap.mp h
  obtain ⟨m, -, rfl⟩ := Option.map_eq_some_iff.mp hid
  exact hmem

/-- Candidates have a matcher. -/
theorem recognizes_of_mem_candidatesAmong {ids : List TokenId} {cand : Candidate}
    (h : cand ∈ candidatesAmong lx.matchers ids) : lx.Recognizes cand.1 := by
  obtain ⟨id, -, hid⟩ := List.mem_filterMap.mp h
  obtain ⟨m, hm, rfl⟩ := Option.map_eq_some_iff.mp hid
  exact ⟨m, hm⟩

/-- The best candidate is one of the roots. -/
theorem best_token {P : TokenId → Prop} (hroots : ∀ cand ∈ lx.roots, P cand.1)
    {prev : Option Char} {rest : Text} {b : Best} (h : lx.best prev rest = some b) : P b.token :=
  forall_best (P := fun b => P b.token) (fun cand hcand _ => hroots cand hcand) h

/-- Refining a token ends at a child or at the token itself. -/
theorem refineWithin_token {P : TokenId → Prop}
    (hchildren : ∀ id, ∀ cand ∈ lx.children.getD id [], P cand.1) (fuel : Nat) {token : TokenId}
    (htoken : P token) (lexeme : Text) : P (lx.refineWithin fuel token lexeme) := by
  induction fuel generalizing token with
  | zero => exact htoken
  | succ fuel ih =>
    unfold refineWithin
    split
    · next cand hcand => exact ih (hchildren token cand (List.mem_of_find?_eq_some hcand))
    · exact htoken

/-- A lexeme inside a line gets a token that the lexer tries. -/
theorem piece_token {P : TokenId → Prop} (hroots : ∀ cand ∈ lx.roots, P cand.1)
    (hchildren : ∀ id, ∀ cand ∈ lx.children.getD id [], P cand.1) {prev : Option Char} {c : Char}
    {rest : Text} {token : TokenId} {u : Text} (h : lx.piece prev c rest = .lexeme token u) :
    P token := by
  rcases lx.piece_cases prev c rest with ⟨d, hp⟩ | ⟨crlf, hp⟩ | ⟨v, hp⟩ | ⟨v, crlf, hp⟩ |
    ⟨b, hb, hp⟩ | ⟨-, hp⟩
  case inr.inr.inr.inr.inl =>
    rw [hp] at h
    cases h
    exact refineWithin_token hchildren _ (best_token hroots hb) _
  all_goals
    rw [hp] at h
    cases h

theorem piecesFrom_token {P : TokenId → Prop} (hroots : ∀ cand ∈ lx.roots, P cand.1)
    (hchildren : ∀ id, ∀ cand ∈ lx.children.getD id [], P cand.1) (prev : Option Char)
    (atLineStart : Bool) (rest : Text) :
    ∀ token u, .lexeme token u ∈ lx.piecesFrom prev atLineStart rest → P token := by
  fun_induction piecesFrom lx prev atLineStart rest with
  | case1 prev rest blanks hmargin ih =>
    intro token u h
    rcases List.mem_cons.mp h with h | h
    · cases h
    · exact ih token u h
  | case2 prev rest hmargin ih => exact ih
  | case3 => simp
  | case4 prev _ _ c rest p ih =>
    intro token u h
    rcases List.mem_cons.mp h with h | h
    · exact piece_token hroots hchildren h.symm
    · exact ih token u h

/-- Every lexeme gets a token that has a matcher. -/
theorem recognized_of_lexeme (hlx : lx.MadeFrom t) {text u : Text} {token : TokenId}
    (h : .lexeme token u ∈ lx.pieces text) : lx.Recognizes token := by
  refine piecesFrom_token (fun cand hcand => ?_) (fun id cand hcand => ?_) none true text token u h
  · rw [hlx.roots] at hcand
    exact recognizes_of_mem_candidatesAmong hcand
  · rw [hlx.children, Array.getD_eq_getD_getElem?, List.getElem?_toArray, List.getElem?_map] at hcand
    cases hid : (List.range t.size)[id]? with
    | none =>
      rw [hid] at hcand
      cases hcand
    | some id' =>
      rw [hid] at hcand
      exact recognizes_of_mem_candidatesAmong hcand

/-- A token that plays a role has no matcher. -/
theorem not_recognizes_role (hlx : lx.MadeFrom t) (hfit : TokenTable.RolesFit t.tokens t.roles)
    {role : Role} {id : TokenId} (h : t.role? role = some id) : ¬ lx.Recognizes id := by
  obtain ⟨d, hd, -, hrec⟩ := hfit role id h
  obtain ⟨m, hm, hcompile⟩ := compile_of_mapM hlx.matchers id hd
  intro hmatcher
  obtain ⟨m', hm'⟩ := hmatcher
  unfold Matcher.compile TokenDecl.spelledRecognizer at hcompile
  rw [hrec] at hcompile
  cases hcompile
  rw [matcher?, hm] at hm'
  cases hm'

/-- No lexeme is taken for a token that plays a role. -/
theorem lexeme_ne_role (hlx : lx.MadeFrom t) (hfit : TokenTable.RolesFit t.tokens t.roles)
    {text u : Text} {token : TokenId} (h : .lexeme token u ∈ lx.pieces text) {role : Role} :
    t.role? role ≠ some token :=
  fun hrole => not_recognizes_role hlx hfit hrole (recognized_of_lexeme hlx h)

end Lexer
end GrammarKit
