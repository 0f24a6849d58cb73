import GrammarKit.Proofs.Token.Descendants
import Mathlib.Data.List.Chain

/-!
# Lineages

A token that has no parent is a root, and `Lineage t id path` says that going
from `id` to its parent, and on from there, ends at a root; `path` has the tokens
on the way, `id` first. A token has one parent at most, so it has one lineage at
most (`Lineage.unique`), and no token comes twice in it (`Lineage.nodup`): it is
at most as long as there are tokens. This needs no check of the table: tokens
whose parents run in a circle have no lineage.

A token can stand for its root exactly if every token of the lineage can stand
for the next one (`Lineage.canStandFor_iff`), as there is no other way to it.
-/
namespace GrammarKit.TokenTable

variable {t : TokenTable}

/-- The token exists and has no parent. -/
def IsRoot (t : TokenTable) (id : TokenId) : Prop :=
  ∃ d, t.get? id = some d ∧ d.parent = none

/-- The token exists and has this parent. -/
def HasParent (t : TokenTable) (id parent : TokenId) : Prop :=
  ∃ d link, t.get? id = some d ∧ d.parent = some link ∧ link.id = parent

theorem mem_roots_iff {id : TokenId} : id ∈ t.roots ↔ t.IsRoot id := by
  unfold roots IsRoot
  constructor
  · intro h
    obtain ⟨⟨id', d⟩, hmem, rfl⟩ := List.mem_map.mp h
    obtain ⟨hmem, hnone⟩ := List.mem_filter.mp hmem
    exact ⟨d, mem_entries_iff.mp hmem, Option.isNone_iff_eq_none.mp hnone⟩
  · rintro ⟨d, hd, hnone⟩
    exact List.mem_map.mpr ⟨(id, d), List.mem_filter.mpr ⟨mem_entries_iff.mpr hd, by simp [hnone]⟩, rfl⟩

theorem mem_children_iff {parent id : TokenId} :
    id ∈ (t.children parent).map (·.1) ↔ t.HasParent id parent := by
  unfold children HasParent
  constructor
  · intro h
    obtain ⟨⟨id', v⟩, hmem, rfl⟩ := List.mem_map.mp h
    obtain ⟨⟨id'', d⟩, hentry, hsome⟩ := List.mem_filterMap.mp hmem
    dsimp only at hsome
    split at hsome
    · next link hlink =>
      split at hsome
      · next hid =>
        cases hsome
        exact ⟨d, link, mem_entries_iff.mp hentry, hlink, hid⟩
      · cases hsome
    · cases hsome
  · rintro ⟨d, link, hd, hlink, hid⟩
    refine List.mem_map.mpr ⟨(id, link.visibility), ?_, rfl⟩
    exact List.mem_filterMap.mpr ⟨(id, d), mem_entries_iff.mpr hd, by simp [hlink, hid]⟩

/-- What keeps the numbers of entries keeps their order. -/
theorem pairwise_filterMap {α β : Type} {f : TokenId × α → Option (TokenId × β)}
    (hf : ∀ e c, f e = some c → c.1 = e.1) {es : List (TokenId × α)}
    (h : es.Pairwise fun a b => a.1 < b.1) : (es.filterMap f).Pairwise fun a b => a.1 < b.1 := by
  refine h.filterMap f fun a b hlt x hx y hy => ?_
  rw [hf a x hx, hf b y hy]
  exact hlt

theorem pairwise_entries (t : TokenTable) : t.entries.Pairwise fun a b => a.1 < b.1 := by
  rw [← List.pairwise_map (f := fun e : TokenId × TokenDecl => e.1)]
  simp [entries, List.map_map, Function.comp_def, List.pairwise_lt_range']

/-- Roots are listed in the order of declaration. -/
theorem pairwise_roots (t : TokenTable) : t.roots.Pairwise (· < ·) := by
  unfold roots
  rw [List.pairwise_map]
  exact t.pairwise_entries.filter _

/-- Children are listed in the order of declaration. -/
theorem pairwise_children (t : TokenTable) (parent : TokenId) :
    ((t.children parent).map (·.1)).Pairwise (· < ·) := by
  unfold children
  rw [List.pairwise_map]
  refine pairwise_filterMap (fun e c hc => ?_) t.pairwise_entries
  obtain ⟨id, d⟩ := e
  dsimp only at hc
  split at hc
  · split at hc
    · cases hc
      rfl
    · cases hc
  · cases hc

theorem lt_of_get? {id : TokenId} {d : TokenDecl} (h : t.get? id = some d) : id < t.size :=
  (List.getElem?_eq_some_iff.mp h).1

theorem IsRoot.lt_size {id : TokenId} (h : t.IsRoot id) : id < t.size := by
  obtain ⟨d, hd, -⟩ := h
  exact lt_of_get? hd

theorem HasParent.lt_size {id parent : TokenId} (h : t.HasParent id parent) : id < t.size := by
  obtain ⟨d, link, hd, -⟩ := h
  exact lt_of_get? hd

theorem HasParent.unique {id parent parent' : TokenId} (h : t.HasParent id parent)
    (h' : t.HasParent id parent') : parent = parent' := by
  obtain ⟨d, link, hd, hlink, rfl⟩ := h
  obtain ⟨d', link', hd', hlink', rfl⟩ := h'
  rw [hd] at hd'
  cases hd'
  rw [hlink] at hlink'
  cases hlink'
  rfl

theorem Substitutes.hasParent {id parent : TokenId} (h : t.Substitutes parent id) :
    t.HasParent id parent := by
  obtain ⟨d, hd, hlink⟩ := h
  exact ⟨d, _, hd, hlink, rfl⟩

/-- Going from token to parent ends at a root; `path` are the tokens on the way. -/
inductive Lineage (t : TokenTable) : TokenId → List TokenId → Prop where
  | root {id : TokenId} : t.IsRoot id → Lineage t id [id]
  | child {id parent : TokenId} {path : List TokenId} : t.HasParent id parent →
      Lineage t parent path → Lineage t id (id :: path)

namespace Lineage

variable {id : TokenId} {path path' : List TokenId}

theorem mem (h : Lineage t id path) : id ∈ path := by
  cases h with
  | root _ => exact List.mem_singleton_self id
  | child _ _ => exact List.mem_cons_self

theorem unique (h : Lineage t id path) (h' : Lineage t id path') : path = path' := by
  induction h generalizing path' with
  | root hroot =>
    obtain ⟨d, hd, hnone⟩ := hroot
    cases h' with
    | root _ => rfl
    | child hparent _ =>
      obtain ⟨d', link, hd', hlink, -⟩ := hparent
      rw [hd] at hd'
      cases hd'
      rw [hnone] at hlink
      cases hlink
  | child hparent _ ih =>
    obtain ⟨d, link, hd, hlink, rfl⟩ := hparent
    cases h' with
    | root hroot =>
      obtain ⟨d', hd', hnone⟩ := hroot
      rw [hd] at hd'
      cases hd'
      rw [hlink] at hnone
      cases hnone
    | child hparent' htail =>
      obtain ⟨d', link', hd', hlink', rfl⟩ := hparent'
      rw [hd] at hd'
      cases hd'
      rw [hlink] at hlink'
      cases hlink'
      rw [ih htail]

/-- Every token on the way has the rest of the way as its lineage. -/
theorem exists_suffix (h : Lineage t id path) :
    ∀ a ∈ path, ∃ rest, rest <:+ path ∧ Lineage t a rest := by
  induction h with
  | root hroot =>
    intro a ha
    rw [List.mem_singleton.mp ha]
    exact ⟨_, List.suffix_rfl, .root hroot⟩
  | child hparent htail ih =>
    intro a ha
    rcases List.mem_cons.mp ha with rfl | ha
    · exact ⟨_, List.suffix_rfl, .child hparent htail⟩
    · obtain ⟨rest, hrest, hline⟩ := ih a ha
      exact ⟨rest, hrest.trans (List.suffix_cons _ _), hline⟩

theorem nodup (h : Lineage t id path) : path.Nodup := by
  induction h with
  | root hroot => exact List.nodup_singleton _
  | @child id parent path hparent htail ih =>
    refine List.nodup_cons.mpr ⟨fun hmem => ?_, ih⟩
    obtain ⟨rest, hrest, hline⟩ := htail.exists_suffix id hmem
    have heq := hline.unique (.child hparent htail)
    have hle := hrest.length_le
    rw [heq, List.length_cons] at hle
    omega

theorem lt_size (h : Lineage t id path) : ∀ a ∈ path, a < t.size := by
  induction h with
  | root hroot =>
    intro a ha
    rw [List.mem_singleton.mp ha]
    exact hroot.lt_size
  | child hparent htail ih => exact List.forall_mem_cons.mpr ⟨hparent.lt_size, ih⟩

theorem length_le_size (h : Lineage t id path) : path.length ≤ t.size := by
  have hsub : path ⊆ List.range t.size := fun a ha => List.mem_range.mpr (h.lt_size a ha)
  have hle := (h.nodup.subperm hsub).length_le
  rwa [List.length_range] at hle

theorem head?_eq (h : Lineage t id path) : path.head? = some id := by
  cases h with
  | root _ => rfl
  | child _ _ => rfl

/-- A token can stand for its root by its lineage or not at all. -/
theorem canStandFor_iff (h : Lineage t id path) {root : TokenId}
    (hlast : path.getLast? = some root) :
    t.CanStandFor root id ↔ path.IsChain fun c p => t.Substitutes p c := by
  induction h with
  | root hroot =>
    cases hlast
    exact ⟨fun _ => .singleton _, fun _ => .refl⟩
  | @child id parent path hparent htail ih =>
    have hnodup := (Lineage.child hparent htail).nodup
    have hlast' : path.getLast? = some root := by
      obtain ⟨x, xs, rfl⟩ := List.exists_cons_of_ne_nil (List.ne_nil_of_mem htail.mem)
      rwa [List.getLast?_cons_cons] at hlast
    have hne : root ≠ id := fun heq =>
      (List.nodup_cons.mp hnodup).1 (heq ▸ List.mem_of_getLast? hlast')
    rw [List.isChain_cons, ← ih hlast', htail.head?_eq]
    constructor
    · intro hstand
      rcases hstand.cases_tail with heq | ⟨p, hp, hlink⟩
      · exact absurd heq.symm hne
      · cases hlink.hasParent.unique hparent
        exact ⟨fun q hq => by cases hq; exact hlink, hp⟩
    · rintro ⟨hlink, hstand⟩
      exact hstand.tail (hlink parent rfl)

end Lineage
end GrammarKit.TokenTable
