import GrammarKit.Proofs.Assoc
import GrammarKit.Token.Descendants
import GrammarKit.Token.Table
import Mathlib.Data.List.Nodup
import Mathlib.Data.List.Perm.Subperm
import Mathlib.Logic.Relation

/-!
# Tokens that can stand for a token

`withDescendants` visits with a bounded number of visits. The bound suffices, as
every visit that goes down spends one on a token not seen before: the result
holds the tokens, their children and so on (`mem_withDescendants_iff`). Without a
visit the result is the same (`withDescendants_eq_visitAll`).

In the map of a token table the children of a token are the tokens that declare
it as their parent and may stand for it (`mem_childrenIn_substitutes_iff`).
-/
namespace GrammarKit

open Relation (ReflTransGen)

namespace Descendants

variable {children : Assoc TokenId (List TokenId)} {all : List TokenId}

/-- The link from a token to its children. -/
def Child (children : Assoc TokenId (List TokenId)) (p c : TokenId) : Prop :=
  c ∈ childrenIn children p

/-- A visit under way among the tokens `all`: fuel for every token not seen yet,
and no child of a seen token is forgotten. -/
structure UnderWay (children : Assoc TokenId (List TokenId)) (all : List TokenId) (fuel : Nat)
    (stack seen : List TokenId) : Prop where
  fuel_eq : fuel + seen.length = all.length
  nodup : seen.Nodup
  seen_sub : seen ⊆ all
  stack_sub : stack ⊆ all
  kept : ∀ p ∈ seen, ∀ c, Child children p c → c ∈ seen ∨ c ∈ stack

/-- Without fuel, everything is seen. -/
theorem UnderWay.all_sub {stack seen : List TokenId} (h : UnderWay children all 0 stack seen) :
    all ⊆ seen := by
  have hsub := List.subperm_of_subset h.nodup h.seen_sub
  have hlen : all.length ≤ seen.length := by have := h.fuel_eq; omega
  exact (hsub.perm_of_length_le hlen).symm.subset

/-- A token seen before is left alone. -/
theorem UnderWay.skip {fuel : Nat} {t : TokenId} {stack seen : List TokenId}
    (h : UnderWay children all fuel (t :: stack) seen) (ht : t ∈ seen) :
    UnderWay children all fuel stack seen := by
  refine ⟨h.fuel_eq, h.nodup, h.seen_sub, fun u hu => h.stack_sub (List.mem_cons_of_mem t hu), ?_⟩
  intro p hp c hc
  rcases h.kept p hp c hc with hs | hs
  · exact Or.inl hs
  · rcases List.mem_cons.mp hs with rfl | hs
    · exact Or.inl ht
    · exact Or.inr hs

/-- A new token is seen, and its children are to be visited. -/
theorem UnderWay.descend {fuel : Nat} {t : TokenId} {stack seen : List TokenId}
    (hall : ∀ p c, Child children p c → c ∈ all)
    (h : UnderWay children all (fuel + 1) (t :: stack) seen) (ht : t ∉ seen) :
    UnderWay children all fuel (childrenIn children t ++ stack) (seen ++ [t]) := by
  refine ⟨?_, ?_, ?_, ?_, ?_⟩
  · have := h.fuel_eq
    rw [List.length_append, List.length_singleton]
    omega
  · exact List.nodup_append.mpr ⟨h.nodup, List.nodup_singleton t, by grind⟩
  · intro u hu
    rcases List.mem_append.mp hu with hu | hu
    · exact h.seen_sub hu
    · exact h.stack_sub (List.mem_cons.mpr (Or.inl (List.mem_singleton.mp hu)))
  · intro u hu
    rcases List.mem_append.mp hu with hu | hu
    · exact hall t u hu
    · exact h.stack_sub (List.mem_cons_of_mem t hu)
  · intro p hp c hc
    rcases List.mem_append.mp hp with hp | hp
    · have := h.kept p hp c hc
      grind
    · rw [List.mem_singleton.mp hp] at hc
      exact Or.inr (List.mem_append_left _ hc)

/-- A visit keeps what it has and what it is to visit, and ends with all children. -/
theorem visit_closed {fuel : Nat} {stack seen : List TokenId}
    (hall : ∀ p c, Child children p c → c ∈ all) (h : UnderWay children all fuel stack seen) :
    (∀ t, t ∈ seen ∨ t ∈ stack → t ∈ visit children fuel stack seen) ∧
      ∀ p ∈ visit children fuel stack seen, ∀ c, Child children p c →
        c ∈ visit children fuel stack seen := by
  fun_induction visit children fuel stack seen with
  | case1 fuel seen =>
    refine ⟨by simp, ?_⟩
    intro p hp c hc
    simpa using h.kept p hp c hc
  | case2 t stack seen =>
    refine ⟨?_, fun p _ c hc => h.all_sub (hall p c hc)⟩
    intro u hu
    rcases hu with hu | hu
    · exact hu
    · exact h.all_sub (h.stack_sub hu)
  | case3 fuel t stack seen ht ih =>
    have ht : t ∈ seen := by simpa using ht
    obtain ⟨hkeep, hclosed⟩ := ih (h.skip ht)
    refine ⟨?_, hclosed⟩
    intro u hu
    apply hkeep
    grind
  | case4 fuel t stack seen ht ih =>
    have ht : t ∉ seen := by simpa using ht
    obtain ⟨hkeep, hclosed⟩ := ih (h.descend hall ht)
    refine ⟨?_, hclosed⟩
    intro u hu
    apply hkeep
    grind

/-- A visit finds only what the stack leads to. -/
theorem reachable_of_mem_visit {fuel : Nat} {stack seen : List TokenId} {t : TokenId}
    (ht : t ∈ visit children fuel stack seen) :
    t ∈ seen ∨ ∃ s ∈ stack, ReflTransGen (Child children) s t := by
  fun_induction visit children fuel stack seen with
  | case1 fuel seen => exact Or.inl ht
  | case2 u stack seen => exact Or.inl ht
  | case3 fuel u stack seen hu ih =>
    rcases ih ht with h | ⟨s, hs, hr⟩
    · exact Or.inl h
    · exact Or.inr ⟨s, List.mem_cons_of_mem u hs, hr⟩
  | case4 fuel u stack seen hu ih =>
    rcases ih ht with h | ⟨s, hs, hr⟩
    · rcases List.mem_append.mp h with h | h
      · exact Or.inl h
      · exact Or.inr ⟨u, List.mem_cons_self, List.mem_singleton.mp h ▸ ReflTransGen.refl⟩
    · rcases List.mem_append.mp hs with hs | hs
      · exact Or.inr ⟨u, List.mem_cons_self, ReflTransGen.head hs hr⟩
      · exact Or.inr ⟨s, List.mem_cons_of_mem u hs, hr⟩

theorem nodup_visit {fuel : Nat} {stack seen : List TokenId} (h : seen.Nodup) :
    (visit children fuel stack seen).Nodup := by
  fun_induction visit children fuel stack seen with
  | case1 fuel seen => exact h
  | case2 t stack seen => exact h
  | case3 fuel t stack seen ht ih => exact ih h
  | case4 fuel t stack seen ht ih =>
    have ht : t ∉ seen := by simpa using ht
    exact ih (List.nodup_append.mpr ⟨h, List.nodup_singleton t, by grind⟩)

theorem mem_mentioned_of_child {tokens : List TokenId} {p c : TokenId}
    (h : Child children p c) : c ∈ mentioned tokens children := by
  have hentry : ∀ m : Assoc TokenId (List TokenId), c ∈ (m.get? p).getD [] →
      ∃ e ∈ m, c ∈ e.2 := by
    intro m hm
    induction m with
    | nil => simp [Assoc.get?] at hm
    | cons e m ih =>
      unfold Assoc.get? at hm
      split at hm
      · exact ⟨e, List.mem_cons_self, hm⟩
      · obtain ⟨e', he', hc⟩ := ih hm
        exact ⟨e', List.mem_cons_of_mem e he', hc⟩
  exact List.mem_append_right tokens (List.mem_flatMap.mpr (hentry children h))

/-- Tokens that are told apart and have no children are all that a visit finds. -/
theorem visit_leaves {fuel : Nat} {stack seen : List TokenId} (hfuel : stack.length ≤ fuel)
    (hnodup : (seen ++ stack).Nodup) (hleaf : ∀ t ∈ stack, childrenIn children t = []) :
    visit children fuel stack seen = seen ++ stack := by
  induction stack generalizing fuel seen with
  | nil => rw [visit, List.append_nil]
  | cons t stack ih =>
    obtain ⟨hchildren, hleaf⟩ := List.forall_mem_cons.mp hleaf
    have hnew : t ∉ seen := fun ht =>
      (List.nodup_append.mp hnodup).2.2 t ht t List.mem_cons_self rfl
    cases fuel with
    | zero => exact absurd hfuel (Nat.not_succ_le_zero _)
    | succ fuel =>
      rw [visit, if_neg (by simpa using hnew), hchildren, List.nil_append,
        ih (Nat.le_of_succ_le_succ hfuel) (by simpa using hnodup) hleaf, List.append_assoc,
        List.singleton_append]

theorem childrenIn_of_areLeaves {tokens : List TokenId} (h : areLeaves tokens children = true) :
    ∀ t ∈ tokens, childrenIn children t = [] := by
  intro t ht
  have hkey : children.contains t = false := by
    have hany := (Bool.and_eq_true_iff.mp h).1
    rw [Bool.not_eq_true', List.any_eq_false] at hany
    simpa using hany t ht
  rw [Assoc.contains, Option.isSome_eq_false_iff, Option.isNone_iff_eq_none] at hkey
  rw [childrenIn, hkey, Option.getD_none]

/-- Tokens that are seen to be leaves without a visit are what it lists. -/
theorem visitAll_of_areLeaves {tokens : List TokenId} (h : areLeaves tokens children = true) :
    visitAll tokens children = tokens := by
  have hfuel : tokens.length ≤ (mentioned tokens children).length := by
    rw [mentioned, List.length_append]
    exact Nat.le_add_right _ _
  have hnodup : tokens.Nodup := of_decide_eq_true (Bool.and_eq_true_iff.mp h).2
  rw [visitAll, visit_leaves hfuel (by simpa using hnodup) (childrenIn_of_areLeaves h),
    List.nil_append]

/-- A visit that goes on from the tokens has fuel for all that they lead to. -/
theorem underWay_visitAll (tokens : List TokenId) (children : Assoc TokenId (List TokenId)) :
    UnderWay children (mentioned tokens children) (mentioned tokens children).length tokens [] :=
  ⟨rfl, List.nodup_nil, List.nil_subset _, List.subset_append_left _ _, by simp⟩

end Descendants

open Descendants

/-- The visit is left out only where it would list the same. -/
theorem withDescendants_eq_visitAll (tokens : List TokenId)
    (children : Assoc TokenId (List TokenId)) :
    withDescendants tokens children = visitAll tokens children := by
  unfold withDescendants
  split
  · next h => exact (visitAll_of_areLeaves h).symm
  · rfl

/-- **Descendants.** The result has the tokens and all that their children lead to. -/
theorem mem_withDescendants_iff {tokens : List TokenId} {children : Assoc TokenId (List TokenId)}
    {t : TokenId} :
    t ∈ withDescendants tokens children ↔ ∃ s ∈ tokens, ReflTransGen (Child children) s t := by
  rw [withDescendants_eq_visitAll]
  constructor
  · intro h
    rcases reachable_of_mem_visit h with h | h
    · exact absurd h List.not_mem_nil
    · exact h
  · intro h
    obtain ⟨s, hs, hr⟩ := h
    obtain ⟨hkeep, hclosed⟩ :=
      visit_closed (fun _ _ => mem_mentioned_of_child) (underWay_visitAll tokens children)
    induction hr with
    | refl => exact hkeep s (Or.inr hs)
    | tail _ hc ih => exact hclosed _ ih _ hc

theorem nodup_withDescendants (tokens : List TokenId) (children : Assoc TokenId (List TokenId)) :
    (withDescendants tokens children).Nodup := by
  rw [withDescendants_eq_visitAll]
  exact nodup_visit List.nodup_nil

namespace TokenTable

variable (t : TokenTable)

/-- The token `c` declares `p` as its parent, and may stand for it. -/
def Substitutes (p c : TokenId) : Prop :=
  ∃ d, t.get? c = some d ∧ d.parent = some ⟨p, .substitutable⟩

/-- The token `c` is `p` or can stand for it. -/
def CanStandFor (p c : TokenId) : Prop := ReflTransGen t.Substitutes p c

variable {t}

theorem mem_entries_iff {c : TokenId} {d : TokenDecl} :
    (c, d) ∈ t.entries ↔ t.get? c = some d := by
  simp [entries, get?, List.mem_zipIdx_iff_getElem?]

theorem mem_substitutesFor_iff {p c : TokenId} : c ∈ t.substitutesFor p ↔ t.Substitutes p c := by
  simp only [substitutesFor, children, List.mem_filterMap, Substitutes]
  constructor
  · intro h
    obtain ⟨⟨c', v⟩, ⟨⟨c'', d⟩, hd, hlink⟩, hv⟩ := h
    have hd := mem_entries_iff.mp hd
    cases hp : d.parent with
    | none => simp [hp] at hlink
    | some link =>
      obtain ⟨p', v'⟩ := link
      refine ⟨d, ?_, ?_⟩ <;> grind
  · intro h
    obtain ⟨d, hd, hp⟩ := h
    exact ⟨(c, .substitutable), ⟨(c, d), mem_entries_iff.mpr hd, by simp [hp]⟩, by simp⟩

theorem mem_substituted_of_substitutes {p c : TokenId} (h : t.Substitutes p c) :
    p ∈ t.substituted := by
  obtain ⟨d, hd, hp⟩ := h
  simp only [substituted, List.mem_eraseDups, List.mem_mergeSort, List.mem_filterMap]
  exact ⟨d, List.mem_of_getElem? hd, by simp [hp]⟩

/-- A token that has substitutable children is linked to by one. -/
theorem exists_link_of_mem_substituted {p : TokenId} (h : p ∈ t.substituted) :
    ∃ d ∈ t.tokens, ∃ link ∈ d.parent, link.id = p := by
  simp only [substituted, List.mem_eraseDups, List.mem_mergeSort, List.mem_filterMap] at h
  obtain ⟨d, hd, hlink⟩ := h
  cases hp : d.parent with
  | none => simp [hp] at hlink
  | some link =>
    rw [hp] at hlink
    obtain ⟨-, heq⟩ := Option.ite_none_right_eq_some.mp hlink
    exact ⟨d, hd, link, hp, Option.some.inj heq⟩

theorem nodup_substituted (t : TokenTable) : t.substituted.Nodup := nodup_eraseDups _

theorem length_substituted_le (t : TokenTable) : t.substituted.length ≤ t.size := by
  have hsub := (nodup_substituted t).subperm fun p hp => List.mem_eraseDups.mp hp
  have hle := hsub.length_le
  rw [List.length_mergeSort] at hle
  exact Nat.le_trans hle (List.length_filterMap_le _ _)

theorem length_substitutesFor_le (t : TokenTable) (p : TokenId) :
    (t.substitutesFor p).length ≤ t.size := by
  have hentries : t.entries.length = t.size := by simp [entries, size]
  have hchildren : (t.children p).length ≤ t.entries.length := List.length_filterMap_le _ _
  rw [hentries] at hchildren
  exact Nat.le_trans (List.length_filterMap_le _ _) hchildren

theorem get?_map_pair {α : Type} (f : TokenId → α) (ps : List TokenId) (p : TokenId) :
    Assoc.get? (ps.map fun p => (p, f p)) p = if p ∈ ps then some (f p) else none := by
  induction ps with
  | nil => simp [Assoc.get?]
  | cons q ps ih => grind [Assoc.get?]

/-- In the map of a table, children are the tokens that may stand for their parent. -/
theorem mem_childrenIn_substitutes_iff {p c : TokenId} :
    c ∈ childrenIn t.substitutes p ↔ t.Substitutes p c := by
  rw [childrenIn, substitutes, get?_map_pair]
  split
  · exact mem_substitutesFor_iff
  · next h =>
    simp only [Option.getD_none, List.not_mem_nil, false_iff]
    exact fun hs => h (mem_substituted_of_substitutes hs)

/-- What a terminal accepts: its tokens and what can stand for one. -/
theorem mem_withDescendants_substitutes_iff {tokens : List TokenId} {c : TokenId} :
    c ∈ withDescendants tokens t.substitutes ↔ ∃ p ∈ tokens, t.CanStandFor p c := by
  have hrel : Child t.substitutes = t.Substitutes := by
    funext p c
    exact propext mem_childrenIn_substitutes_iff
  rw [mem_withDescendants_iff, hrel]
  rfl

theorem Substitutes.lt {p c : TokenId} (h : t.Substitutes p c) : c < t.size := by
  obtain ⟨d, hd, -⟩ := h
  exact (List.getElem?_eq_some_iff.mp hd).1

/-- What can stand for a token of the table is one, too. -/
theorem lt_of_mem_withDescendants {tokens : List TokenId} (h : ∀ p ∈ tokens, p < t.size) :
    ∀ c ∈ withDescendants tokens t.substitutes, c < t.size := by
  intro c hc
  obtain ⟨p, hp, hstand⟩ := mem_withDescendants_substitutes_iff.mp hc
  rcases hstand.cases_tail with rfl | ⟨_, -, hlast⟩
  · exact h c hp
  · exact hlast.lt

theorem length_withDescendants_le {tokens : List TokenId} (h : ∀ p ∈ tokens, p < t.size) :
    (withDescendants tokens t.substitutes).length ≤ t.size := by
  have hsub : withDescendants tokens t.substitutes ⊆ List.range t.size := fun c hc =>
    List.mem_range.mpr (lt_of_mem_withDescendants h c hc)
  have hle := ((nodup_withDescendants tokens t.substitutes).subperm hsub).length_le
  rwa [List.length_range] at hle

end TokenTable
end GrammarKit
