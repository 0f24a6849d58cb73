import GrammarKit.Proofs.Assoc
import GrammarKit.Rank
import Mathlib.Algebra.Order.BigOperators.Group.List
import Mathlib.Algebra.Order.Ring.Nat
import Mathlib.Data.List.Flatten

/-!
# The rules of a kind

An index that was built by adding rules has every ranked type once and knows the
highest rank of every kind. Then `rulesOfKind?` lists the rules of a kind at the
ranks up to a cap, and no others (`mem_rulesOfKind_iff`). It lists none twice if each
was added once (`nodup_rulesOfKind`), and some if every kind got one (`Peopled`).

Adding rules at once is the same as registering their ranked type and binding them one
after the other (`foldlM_pushRule`).
-/
namespace GrammarKit

namespace RankIndex

/-- An index as `add` builds it. -/
structure Valid (x : RankIndex) : Prop where
  proper : x.entries.Proper
  ranks_le : ∀ r rules, x.entries.get? r = some rules →
    ∃ top, x.maxRank? r.kind = some top ∧ r.rank ≤ top

theorem valid_empty : Valid .empty := ⟨List.nodup_nil, by simp [empty, Assoc.get?]⟩

variable {x : RankIndex}

theorem rulesAt_add (r r' : RankedType) (rules : List RuleId) :
    (x.add r rules).rulesAt r' = if r' = r then x.rulesAt r ++ rules else x.rulesAt r' := by
  simp only [add, rulesAt, Assoc.get?_alter]
  split
  · rfl
  · rfl

theorem valid_add (hx : x.Valid) (r : RankedType) (rules : List RuleId) :
    (x.add r rules).Valid := by
  refine ⟨Assoc.proper_alter hx.proper r, ?_⟩
  intro r' rules' h
  simp only [add, Assoc.get?_alter] at h
  simp only [add, maxRank?, Assoc.get?_alter]
  by_cases hk : r'.kind = r.kind
  · rw [if_pos hk]
    refine ⟨_, rfl, ?_⟩
    by_cases hr : r' = r
    · rw [hr]; exact Nat.le_max_right _ _
    · rw [if_neg hr] at h
      obtain ⟨top, ht, hle⟩ := hx.ranks_le r' rules' h
      rw [maxRank?, hk] at ht
      rw [ht]
      exact Nat.le_trans hle (Nat.le_max_left _ _)
  · have hr : r' ≠ r := fun he => hk (he ▸ rfl)
    rw [if_neg hr] at h
    rw [if_neg hk]
    exact hx.ranks_le r' rules' h

/-- Number of the rules of all kinds. -/
def total (x : RankIndex) : Nat := (x.entries.map fun e => e.2.length).sum

theorem total_add (x : RankIndex) (r : RankedType) (rules : List RuleId) :
    (x.add r rules).total = x.total + rules.length :=
  Assoc.sum_alter (by simp) (by simp) x.entries r

theorem length_le_total {r : RankedType} {rules : List RuleId} (h : (r, rules) ∈ x.entries) :
    rules.length ≤ x.total :=
  List.le_sum_of_mem (List.mem_map.mpr ⟨_, h, rfl⟩)

theorem length_rulesOfKind_le {k : Kind} {cap : Option Nat} {rules : List RuleId}
    (h : x.rulesOfKind? k cap = some rules) : rules.length ≤ x.total := by
  unfold rulesOfKind? at h
  obtain ⟨top, -, rfl⟩ := Option.map_eq_some_iff.mp h
  rw [List.length_flatMap, entriesUpTo, ((List.mergeSort_perm _ _).map _).sum_nat]
  exact List.Sublist.sum_le_sum (List.filter_sublist.map _) fun _ _ => Nat.zero_le _

/-- The rules of a kind that has some. -/
theorem mem_getD_iff {k : Kind} {cap : Option Nat} {rules : List RuleId}
    (h : x.rulesOfKind? k cap = some rules) {id : RuleId} :
    id ∈ (x.rulesOfKind? k cap).getD [] ↔ id ∈ rules := by
  rw [h, Option.getD_some]

theorem mem_rulesAt_iff (hx : x.Valid) {r : RankedType} {id : RuleId} :
    id ∈ x.rulesAt r ↔ ∃ rules, (r, rules) ∈ x.entries ∧ id ∈ rules := by
  simp only [Assoc.mem_iff_get? hx.proper, rulesAt]
  cases x.entries.get? r <;> simp

/-- **The rules of a kind.** They are the rules of the kind at some rank up to the cap. -/
theorem mem_rulesOfKind_iff (hx : x.Valid) {k : Kind} {cap : Option Nat} {id : RuleId} :
    id ∈ (x.rulesOfKind? k cap).getD [] ↔
      ∃ rank, (∀ c ∈ cap, rank ≤ c) ∧ id ∈ x.rulesAt ⟨k, rank⟩ := by
  simp only [mem_rulesAt_iff hx, rulesOfKind?]
  cases htop : x.maxRank? k with
  | none =>
    -- a kind without a highest rank has no entries
    simp only [Option.map_none, Option.getD_none, List.not_mem_nil, false_iff]
    intro h
    obtain ⟨rank, -, rules, hmem, -⟩ := h
    obtain ⟨top, ht, -⟩ := hx.ranks_le _ _ ((Assoc.mem_iff_get? hx.proper).mp hmem)
    rw [htop] at ht
    cases ht
  | some top =>
    simp only [Option.map_some, Option.getD_some, entriesUpTo, List.mem_flatMap,
      List.mem_mergeSort, List.mem_filter, Bool.and_eq_true, decide_eq_true_eq]
    constructor
    · intro h
      obtain ⟨⟨⟨k', rank⟩, rules⟩, ⟨hmem, hk, hle⟩, hid⟩ := h
      cases hk
      refine ⟨rank, ?_, rules, hmem, hid⟩
      intro c hc
      cases hc
      exact Nat.le_trans hle (Nat.min_le_left _ _)
    · intro h
      obtain ⟨rank, hle, rules, hmem, hid⟩ := h
      obtain ⟨top', ht, hrank⟩ := hx.ranks_le _ _ ((Assoc.mem_iff_get? hx.proper).mp hmem)
      rw [htop] at ht
      cases ht
      refine ⟨(⟨k, rank⟩, rules), ⟨hmem, rfl, ?_⟩, hid⟩
      cases cap with
      | none => exact hrank
      | some c => exact Nat.le_min.mpr ⟨hle c rfl, hrank⟩

/-! ## Each rule once, and some for every kind -/

/-- The rules of all kinds. -/
def ids (x : RankIndex) : List RuleId := x.entries.flatMap (·.2)

theorem ids_add_perm (x : RankIndex) (r : RankedType) (rules : List RuleId) :
    (x.add r rules).ids.Perm (x.ids ++ rules) :=
  Assoc.flatMap_alter_perm rules x.entries r

theorem nodup_rulesOfKind (hx : x.ids.Nodup) {k : Kind} {cap : Option Nat} {rules : List RuleId}
    (h : x.rulesOfKind? k cap = some rules) : rules.Nodup := by
  unfold rulesOfKind? at h
  obtain ⟨top, -, rfl⟩ := Option.map_eq_some_iff.mp h
  have hids : ((x.entries.filter fun e =>
      e.1.kind = k && e.1.rank ≤ cap.elim top (·.min top)).flatMap (·.2)).Nodup :=
    hx.sublist (List.filter_sublist.flatMap _)
  exact ((List.mergeSort_perm _ _).flatMap_right _).nodup_iff.mpr hids

/-- Every kind with a highest rank has a rule. -/
def Peopled (x : RankIndex) : Prop :=
  ∀ k top, x.maxRank? k = some top → ∃ rank id, id ∈ x.rulesAt ⟨k, rank⟩

theorem peopled_empty : Peopled .empty := nofun

theorem peopled_add (hx : x.Peopled) (r : RankedType) {rules : List RuleId} (hne : rules ≠ []) :
    (x.add r rules).Peopled := by
  intro k top htop
  simp only [add, maxRank?, Assoc.get?_alter] at htop
  by_cases hk : k = r.kind
  · obtain ⟨id, hid⟩ := List.exists_mem_of_ne_nil rules hne
    refine ⟨r.rank, id, ?_⟩
    rw [hk, rulesAt_add, if_pos rfl]
    exact List.mem_append_right _ hid
  · rw [if_neg hk] at htop
    obtain ⟨rank, id, hid⟩ := hx k top htop
    refine ⟨rank, id, ?_⟩
    rw [rulesAt_add, if_neg fun he => hk (congrArg RankedType.kind he)]
    exact hid

/-- Without a cap, a kind with a highest rank has rules. -/
theorem rulesOfKind_ne_nil (hv : x.Valid) (hx : x.Peopled) {k : Kind} {rules : List RuleId}
    (h : x.rulesOfKind? k none = some rules) : rules ≠ [] := by
  obtain ⟨top, htop, -⟩ := Option.map_eq_some_iff.mp h
  obtain ⟨rank, id, hid⟩ := hx k top htop
  exact List.ne_nil_of_mem
    ((mem_getD_iff h).mp ((mem_rulesOfKind_iff hv).mpr ⟨rank, nofun, hid⟩))

/-! ## Binding rules one by one -/

theorem id?_add (x : RankIndex) (r : RankedType) (rules : List RuleId) :
    (x.add r rules).id? r = some (x.entries.place r) :=
  Assoc.index?_alter _ x.entries r

/-- Binding one more rule to a ranked type is adding it with the others. -/
theorem pushRule_add (x : RankIndex) (r : RankedType) (rules : List RuleId) (rule : RuleId) :
    (x.add r rules).pushRule (x.entries.place r) rule = .ok (x.add r (rules ++ [rule])) := by
  have hget := Assoc.getElem?_place_alter (fun known => known.getD [] ++ rules) x.entries r
  have hset := Assoc.set_place_alter (fun known => known.getD [] ++ rules)
    (fun known => known.getD [] ++ (rules ++ [rule])) x.entries r
  unfold pushRule add
  dsimp only
  rw [hget]
  dsimp only
  rw [List.append_assoc, hset]

/-- **Registration.** Registering a ranked type and binding its rules one by one is
adding them at once. -/
theorem foldlM_pushRule (x : RankIndex) (r : RankedType) (rules before : List RuleId) :
    rules.foldlM (fun y rule => y.pushRule (x.entries.place r) rule) (x.add r before) =
      .ok (x.add r (before ++ rules)) := by
  induction rules generalizing before with
  | nil => simp [pure, Except.pure]
  | cons rule rules ih =>
    rw [List.foldlM_cons, pushRule_add, List.append_cons before rule rules]
    exact ih (before ++ [rule])

end RankIndex
end GrammarKit
