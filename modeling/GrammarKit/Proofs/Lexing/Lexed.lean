import GrammarKit.Proofs.Fault
import GrammarKit.Proofs.Lexing.Newlines
import GrammarKit.Proofs.Lexing.Tiling
import GrammarKit.Proofs.Text

/-!
# Looking occurrences up

The occurrences of a lexed text lie on characters of the text (`OnText`), and its
newlines ascend. So the text and the span of every occurrence can be told, and
lines and columns count from one (`lex_lookups`).
-/
namespace GrammarKit

/-- The stretch begins and ends between characters of the text. -/
def OnText (text : Text) (o : Occurrence) : Prop :=
  ∃ before u after, text = before ++ (u ++ after) ∧ o.start = Text.bytes before ∧
    o.len = Text.bytes u

theorem OnText.stop_le {text : Text} {o : Occurrence} (h : OnText text o) :
    o.stop ≤ Text.bytes text := by
  obtain ⟨before, u, after, rfl, hstart, hlen⟩ := h
  simp only [Occurrence.stop, hstart, hlen, Text.bytes_append]
  omega

/-- What tiles a text lies on it. -/
theorem Tiled.onText {lx : Lexer} {before rest : Text} {os : List Occurrence}
    (h : Tiled lx before rest os) : ∀ o ∈ os, OnText (before ++ rest) o := by
  induction h with
  | @last before gap _ =>
    intro o ho
    rw [List.mem_singleton.mp ho]
    exact ⟨before ++ gap, [], [], by simp, rfl, rfl⟩
  | @cons before gap lexeme rest t os _ _ ih =>
    intro o ho
    rcases List.mem_cons.mp ho with rfl | ho
    · exact ⟨before ++ gap, lexeme, rest, by simp, rfl, rfl⟩
    · simpa using ih o ho

namespace Lexed

variable {l : Lexed}

theorem occurrence_eq_ok_iff {i : Nat} {o : Occurrence} :
    l.occurrence i = .ok o ↔ l.occurrences[i]? = some o := by
  unfold occurrence
  cases l.occurrences[i]? <;> simp [require]

/-- The characters of a stretch on the text can be told. -/
theorem succeeds_textOf {o : Occurrence} (h : OnText l.text o) : Succeeds (l.textOf o) := by
  obtain ⟨before, u, after, htext, hstart, hlen⟩ := h
  unfold textOf
  by_cases hend : Text.bytes l.text ≤ o.start
  · rw [if_pos hend]
    exact succeeds_ok _
  · rw [if_neg hend, htext, hstart, Text.dropBytes?_append]
    dsimp only
    split
    · exact succeeds_ok _
    · rw [succeeds_require_iff, hlen, Text.takeBytes?_append]
      rfl

/-- Lines and columns count from one. -/
theorem lineOf_pos (l : Lexed) (offset : Nat) :
    1 ≤ (l.lineOf offset).1 ∧ 1 ≤ (l.lineOf offset).2 := by
  unfold lineOf
  split
  · exact ⟨Nat.le_refl 1, Nat.succ_pos offset⟩
  · next n ns hbefore =>
    refine ⟨Nat.succ_pos _, ?_⟩
    have hmem : (n :: ns).getLastD 0 ∈ n :: ns := by
      rw [List.getLastD_cons]
      exact List.getLastD_mem_cons
    rw [← hbefore] at hmem ⊢
    have hlt := List.all_eq_true.mp List.all_takeWhile _ hmem
    have hlt := of_decide_eq_true hlt
    show 1 ≤ offset - _
    omega

theorem ascends_of_pairwise {ns : List Nat} (h : ns.Pairwise (· < ·)) : ascends ns = true := by
  induction ns with
  | nil => rfl
  | cons a ns ih =>
    obtain ⟨ha, htail⟩ := List.pairwise_cons.mp h
    cases ns with
    | nil => rfl
    | cons b ns => simp [ascends, ha b, ih htail]

end Lexed

namespace Lexer

theorem pairwise_newlines_lex (lx : Lexer) (text : Text) :
    (lx.lex text).newlines.Pairwise (· < ·) := by
  have hsub := (enteredFrom_sublist (pieces_cuts lx text) 0).1
  rw [← newlines_lex] at hsub
  exact (text.pairwise_newlinesFrom 0).sublist hsub

/-- The newlines that lexing finds are in order. -/
theorem ofParts_lex (lx : Lexer) (text : Text) : Lexed.ofParts (lx.lex text) = .ok (lx.lex text) :=
  if_pos (Lexed.ascends_of_pairwise (pairwise_newlines_lex lx text))

theorem onText_lex (lx : Lexer) (text : Text) :
    ∀ o ∈ (lx.lex text).occurrences, OnText text o :=
  (lex_tiled lx text).2.2.onText

/-- The text and the span of every occurrence can be told. -/
theorem lex_lookups (lx : Lexer) (text : Text) {i : Nat}
    (hi : i < (lx.lex text).occurrences.length) :
    Succeeds ((lx.lex text).textAt i) ∧
      ∃ span, (lx.lex text).span i = .ok span ∧ 1 ≤ span.location.line ∧
        1 ≤ span.location.column ∧ span.location.offset + span.len ≤ Text.bytes text := by
  have hget := List.getElem?_eq_getElem hi
  have hon := onText_lex lx text _ (List.getElem_mem hi)
  have hocc := Lexed.occurrence_eq_ok_iff.mpr hget
  constructor
  · unfold Lexed.textAt
    rw [succeeds_bind_iff]
    exact ⟨_, hocc, Lexed.succeeds_textOf hon⟩
  · obtain ⟨hline, hcolumn⟩ := (lx.lex text).lineOf_pos (lx.lex text).occurrences[i].start
    have hspan : (lx.lex text).span i = .ok ⟨(lx.lex text).location (lx.lex text).occurrences[i].start,
        (lx.lex text).occurrences[i].len⟩ := by
      rw [Lexed.span, hocc]
      rfl
    exact ⟨_, hspan, hline, hcolumn, hon.stop_le⟩

end Lexer
end GrammarKit
