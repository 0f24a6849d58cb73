import GrammarKit.Pattern.Pattern
import Mathlib.Data.List.Basic

/-!
# Matches on one line

A match is made of characters that nodes of the program read. So if no node reads
newlines, no match has a newline in it (`newline_notMem_match`): all threads end
there, and a match is found before or not at all.
-/
namespace GrammarKit.Pattern

/-- Whether a node reads newlines. -/
def Node.readsNewline : Node → Bool
  | .read set _ => set.contains '\n'
  | _ => false

namespace Program

variable {p : Program}

/-- Without threads nothing more is found. -/
theorem run_nil_le (p : Program) (prev : Option Char) (count best : Nat) (text : List Char) :
    p.run prev [] count best text ≤ best := by
  cases text with
  | nil => exact Nat.le_refl best
  | cons c rest =>
    rw [run]
    split
    · exact Nat.zero_le best
    · exact Nat.le_refl best

/-- No thread goes on over a newline. -/
theorem reading_newline (h : ∀ n ∈ p.nodes, n.readsNewline = false) (ts : List Nat) :
    p.reading '\n' ts = [] := by
  induction ts with
  | nil => rfl
  | cons i ts ih =>
    rw [reading]
    split
    · rfl
    · next set _ hnode =>
      have hset : set.contains '\n' = false := h _ (Array.mem_of_getElem? hnode)
      rw [hset]
      exact ih
    · exact ih

/-- What is read beyond the present place has no newline in it. -/
theorem newline_notMem_run (h : ∀ n ∈ p.nodes, n.readsNewline = false) (prev : Option Char)
    (ts : List Nat) {count best : Nat} (hbest : best ≤ count) (text : List Char) :
    '\n' ∉ text.take (p.run prev ts count best text - count) := by
  induction text generalizing prev ts count best with
  | nil =>
    rw [List.take_nil]
    exact List.not_mem_nil
  | cons c rest ih =>
    have hnone : ∀ n ≤ count, '\n' ∉ (c :: rest).take (n - count) := by
      intro n hn
      rw [Nat.sub_eq_zero_of_le hn]
      exact List.not_mem_nil
    rw [run]
    split
    · exact hnone 0 (Nat.zero_le count)
    dsimp only
    generalize hfound : p.accepts (p.resolve prev (some c) ts) = found
    have hbest' : (if found then count else best) ≤ count := by
      split
      · exact Nat.le_refl count
      · exact hbest
    generalize (if found then count else best) = best' at hbest' ⊢
    split
    · exact hnone best' hbest'
    by_cases hc : c = '\n'
    · subst hc
      rw [reading_newline h]
      exact hnone _ (Nat.le_trans (run_nil_le p _ _ _ rest) hbest')
    · generalize hrun : p.run (some c) _ (count + 1) best' rest = n
      have hrest := ih (some c) (p.threads (Look.holdsBehind (some c))
        (p.reading c (p.resolve prev (some c) ts))) (Nat.le_succ_of_le hbest')
      rw [hrun] at hrest
      cases hn : n - count with
      | zero => exact List.not_mem_nil
      | succ m =>
        rw [show n - (count + 1) = m by omega] at hrest
        rw [List.take_succ_cons]
        exact List.not_mem_cons_of_ne_of_not_mem (Ne.symm hc) hrest

end Program

/-- **Matches on one line.** A pattern whose nodes read no newline matches none. -/
theorem newline_notMem_match {p : Pattern} (h : ∀ n ∈ p.program.nodes, n.readsNewline = false)
    (prev : Option Char) (text : List Char) : '\n' ∉ text.take (p.matchChars prev text) := by
  unfold matchChars Program.search
  split
  · exact List.not_mem_nil
  · exact Program.newline_notMem_run h prev _ (Nat.le_refl 0) text

end GrammarKit.Pattern
