import GrammarKit.Proofs.Compile.ListRules
import GrammarKit.Proofs.Derivation
import GrammarKit.Proofs.Generation

/-!
# The words of lists

The rules made for a list read exactly the lists of its elements: `lastSteps` one
element, `moreSteps` two or more, `leadingSteps` as many as the minimum says.
Words are read by some family `L`; the elements have the words `P`. One half
needs that what `L` reads as an element is in `P` (`listOf_of_spells`), the other
that `L` reads all of `P` (`spells_of_listOf`).
-/
namespace GrammarKit.Compile

/-- The word is a list of at least `n` elements with the words `P`. -/
def ListOf (t : TokenTable) (d : Option Delimiter) (P : List TokenId → Prop) (n : Nat)
    (w : List TokenId) : Prop :=
  ∃ us, n ≤ us.length ∧ (∀ u ∈ us, P u) ∧ Joined t d us w

section ListOf

variable {t : TokenTable} {d : Option Delimiter} {P : List TokenId → Prop} {n : Nat}

theorem ListOf.weaken {m : Nat} {w : List TokenId} (h : ListOf t d P n w) (hm : m ≤ n) :
    ListOf t d P m w := by
  obtain ⟨us, hn, hus, hj⟩ := h
  exact ⟨us, by omega, hus, hj⟩

theorem listOf_single {u z : List TokenId} (hu : P u) (hz : Terminates t d z) :
    ListOf t d P 1 (u ++ z) :=
  ⟨[u], Nat.le_refl 1, by simpa using hu, z, hz, rfl⟩

theorem listOf_cons {u z v : List TokenId} (hu : P u) (hz : Separates t d z)
    (hv : ListOf t d P (n + 1) v) : ListOf t d P (n + 2) (u ++ (z ++ v)) := by
  obtain ⟨us, hn, hus, hj⟩ := hv
  have hne : us ≠ [] := by
    intro h
    subst h
    exact absurd hn (Nat.not_succ_le_zero n)
  exact ⟨u :: us, by simpa using hn, by simpa using ⟨hu, hus⟩,
    (joined_cons_iff hne).mpr ⟨z, v, hz, hj, rfl⟩⟩

/-- A list of two elements or more is an element before a list. -/
theorem ListOf.uncons {w : List TokenId} (h : ListOf t d P (n + 2) w) :
    ∃ u z v, w = u ++ (z ++ v) ∧ P u ∧ Separates t d z ∧ ListOf t d P (n + 1) v := by
  obtain ⟨us, hn, hus, hj⟩ := h
  cases us with
  | nil => exact absurd hn (Nat.not_succ_le_zero _)
  | cons u us =>
    have hn : n + 1 ≤ us.length := Nat.le_of_succ_le_succ hn
    have hne : us ≠ [] := by
      intro h
      subst h
      exact absurd hn (Nat.not_succ_le_zero n)
    obtain ⟨z, v, hz, hv, rfl⟩ := (joined_cons_iff hne).mp hj
    obtain ⟨hu, hus⟩ := List.forall_mem_cons.mp hus
    exact ⟨u, z, v, rfl, hu, hz, us, hn, hus, hv⟩

end ListOf

namespace ListPlan

variable {t : TokenTable} {cx : Context} {l : ListPlan} {L : RuleId → List TokenId → Prop}
  {P : List TokenId → Prop} {last more : RuleId} {w : List TokenId}

/-- An element of the list reads the word. -/
def Item (l : ListPlan) (L : RuleId → List TokenId → Prop) (u : List TokenId) : Prop :=
  ∃ q ∈ l.items, L q u

/-- Elements with their delimiters, and the rest of the list. -/
def chainSteps (l : ListPlan) (m : Nat) (last more : RuleId) : List Step :=
  (List.replicate m l.itemSteps).flatten ++ [.nonTerminal [last, more]]

theorem moreSteps_eq (l : ListPlan) (last more : RuleId) :
    l.moreSteps last more = l.chainSteps 1 last more := by
  simp [moreSteps, chainSteps]

theorem leadingSteps_eq (l : ListPlan) (last more : RuleId) :
    l.leadingSteps last more = l.chainSteps (l.min - 1) last more := rfl

theorem chainSteps_succ (l : ListPlan) (m : Nat) (last more : RuleId) :
    l.chainSteps (m + 1) last more = l.itemSteps ++ l.chainSteps m last more := by
  simp [chainSteps, List.replicate_succ]

theorem spells_chainSteps_zero :
    Spells (Step.Reads L) (l.chainSteps 0 last more) w ↔ L last w ∨ L more w := by
  simp [chainSteps, Step.Reads]

section Delimiters

variable (hl : l.Fits cx) (hcx : cx.substitutes = t.substitutes)
include hl hcx

theorem spells_delimiterSteps :
    Spells (Step.Reads L) l.delimiterSteps w ↔ Separates t l.key.delimiter w := by
  rw [delimiterSteps, hl.delimiter_eq, hcx]
  cases l.key.delimiter with
  | none => rfl
  | some d =>
    simp only [Option.map_some, Option.toList_some, spells_singleton, Step.Reads, Separates,
      TokenTable.mem_withDescendants_substitutes_iff, List.mem_singleton, exists_eq_left]

theorem spells_itemSteps : Spells (Step.Reads L) l.itemSteps w ↔
    ∃ u z, w = u ++ z ∧ l.Item L u ∧ Separates t l.key.delimiter z := by
  simp only [itemSteps, Spells, spells_delimiterSteps hl hcx]
  rfl

theorem spells_lastSteps : Spells (Step.Reads L) l.lastSteps w ↔
    ∃ u z, w = u ++ z ∧ l.Item L u ∧ Terminates t l.key.delimiter z := by
  have hend : ∀ z, Spells (Step.Reads L) (if l.endsDelimited then l.delimiterSteps else []) z ↔
      Terminates t l.key.delimiter z := by
    intro z
    have hdelimiter := spells_delimiterSteps (L := L) (w := z) hl hcx
    unfold endsDelimited
    cases hd : l.key.delimiter with
    | none => exact Iff.rfl
    | some d =>
      cases d with
      | separator p => exact Iff.rfl
      | terminator p =>
        rw [hd] at hdelimiter
        exact hdelimiter
  simp only [lastSteps, Spells, hend]
  rfl

/-! ## What the rules of a list read is a list -/

theorem listOf_of_lastSteps (hitem : ∀ u, l.Item L u → P u)
    (h : Spells (Step.Reads L) l.lastSteps w) : ListOf t l.key.delimiter P 1 w := by
  obtain ⟨u, z, rfl, hu, hz⟩ := (spells_lastSteps hl hcx).mp h
  exact listOf_single (hitem u hu) hz

theorem listOf_of_spells (hitem : ∀ u, l.Item L u → P u)
    (hrest : ∀ w, L last w ∨ L more w → ListOf t l.key.delimiter P 1 w) {m : Nat}
    (h : Spells (Step.Reads L) (l.chainSteps m last more) w) :
    ListOf t l.key.delimiter P (m + 1) w := by
  induction m generalizing w with
  | zero => exact hrest w (spells_chainSteps_zero.mp h)
  | succ m ih =>
    rw [chainSteps_succ, spells_append] at h
    obtain ⟨_, v, rfl, hfirst, hv⟩ := h
    obtain ⟨u, z, rfl, hu, hz⟩ := (spells_itemSteps hl hcx).mp hfirst
    rw [List.append_assoc]
    exact listOf_cons (hitem u hu) hz (ih hv)

/-! ## The rules of a list read all lists -/

theorem spells_of_listOf (hitem : ∀ u, P u → l.Item L u)
    (hrest : ∀ w, ListOf t l.key.delimiter P 1 w → L last w ∨ L more w) {m : Nat}
    (h : ListOf t l.key.delimiter P (m + 1) w) :
    Spells (Step.Reads L) (l.chainSteps m last more) w := by
  induction m generalizing w with
  | zero => exact spells_chainSteps_zero.mpr (hrest w h)
  | succ m ih =>
    obtain ⟨u, z, v, rfl, hu, hz, hv⟩ := h.uncons
    rw [chainSteps_succ, spells_append]
    exact ⟨u ++ z, v, by simp, (spells_itemSteps hl hcx).mpr ⟨u, z, rfl, hitem u hu, hz⟩, ih hv⟩

/-- The pair of rules reads every list that is not empty. -/
theorem pair_reads_of_listOf (hitem : ∀ u, P u → l.Item L u)
    (hlast : ∀ w, Spells (Step.Reads L) l.lastSteps w → L last w)
    (hmore : ∀ w, Spells (Step.Reads L) (l.moreSteps last more) w → L more w)
    (h : ListOf t l.key.delimiter P 1 w) : L last w ∨ L more w := by
  obtain ⟨us, hn, hus, hj⟩ := h
  induction us generalizing w with
  | nil => exact absurd hn (Nat.not_succ_le_zero 0)
  | cons u us ih =>
    obtain ⟨hu, hus⟩ := List.forall_mem_cons.mp hus
    cases us with
    | nil =>
      obtain ⟨z, hz, rfl⟩ := hj
      exact Or.inl (hlast _ ((spells_lastSteps hl hcx).mpr ⟨u, z, rfl, hitem u hu, hz⟩))
    | cons u' us =>
      obtain ⟨z, v, hz, hv, rfl⟩ := (joined_cons_iff (List.cons_ne_nil u' us)).mp hj
      have hrest := ih (Nat.le_add_left 1 us.length) hus hv
      refine Or.inr (hmore _ ?_)
      rw [moreSteps_eq, chainSteps_succ, spells_append]
      exact ⟨u ++ z, v, by simp, (spells_itemSteps hl hcx).mpr ⟨u, z, rfl, hitem u hu, hz⟩,
        spells_chainSteps_zero.mpr hrest⟩

end Delimiters
end ListPlan
end GrammarKit.Compile
