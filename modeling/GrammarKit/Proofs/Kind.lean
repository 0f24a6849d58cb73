import GrammarKit.Kind
import GrammarKit.Proofs.Assoc

/-!
# Names of kinds

The number that a name is found under is the number of that name (`name?_of_get?`).
Numbers are looked up in the list of names. This is the same as keeping a map next to
the list: a name that is interned is found under the number it got, and every other
name is found as before (`get?_intern`). It is also the same as making the map again
from the names (`get?_index`), so a map need not be stored. Interning repeats no name
(`nodup_intern`).
-/
namespace GrammarKit

section LastIndex

variable {α : Type} [DecidableEq α] {a : α}

theorem getElem?_of_lastIndex? {as : List α} {i : Nat} (h : lastIndex? a as = some i) :
    as[i]? = some a := by
  induction as generalizing i with
  | nil => cases h
  | cons b as ih =>
    unfold lastIndex? at h
    split at h
    · next j hj =>
      cases h
      exact ih hj
    · split at h
      · next heq =>
        cases h
        rw [heq]
        rfl
      · cases h

theorem lastIndex?_concat (b : α) (as : List α) :
    lastIndex? a (as ++ [b]) = if b = a then some as.length else lastIndex? a as := by
  induction as with
  | nil => rfl
  | cons c as ih =>
    rw [List.cons_append, lastIndex?, ih]
    by_cases h : b = a
    · rw [if_pos h, if_pos h]
      rfl
    · rw [if_neg h, if_neg h]
      rfl

theorem lastIndex?_eq_none_iff {as : List α} : lastIndex? a as = none ↔ a ∉ as := by
  induction as with
  | nil => simp [lastIndex?]
  | cons b as ih =>
    rw [List.mem_cons, not_or, ← ih, lastIndex?]
    cases lastIndex? a as with
    | some i => simp
    | none => simp [eq_comm]

end LastIndex

namespace KindTable

variable {t : KindTable} {name : String} {k : Kind}

theorem name?_of_get? (h : t.get? name = some k) : t.name? k = some name :=
  getElem?_of_lastIndex? h

theorem lt_of_get? (h : t.get? name = some k) : k < t.names.length :=
  (List.getElem?_eq_some_iff.mp (name?_of_get? h)).1

theorem get?_eq_none_iff : t.get? name = none ↔ name ∉ t.names := lastIndex?_eq_none_iff

/-- Interning a name repeats none. -/
theorem nodup_intern (name : String) (h : t.names.Nodup) : (t.intern name).2.names.Nodup := by
  unfold intern
  split
  · exact h
  · next hnone =>
    exact nodup_concat.mpr ⟨get?_eq_none_iff.mp hnone, h⟩

/-- Where no name is repeated, kinds are told apart by their names. -/
theorem name?_inj (h : t.names.Nodup) {k' : Kind} (hk : t.name? k = some name)
    (hk' : t.name? k' = some name) : k = k' :=
  (List.getElem?_inj (List.getElem?_eq_some_iff.mp hk).1 h).mp (hk.trans hk'.symm)

/-- Interning a name changes what is found under this name only. -/
theorem get?_intern (t : KindTable) (name other : String) :
    (t.intern name).2.get? other =
      if other = name then some (t.intern name).1 else t.get? other := by
  unfold intern
  split
  · next k hk =>
    split
    · next heq => rw [heq, hk]
    · rfl
  · show lastIndex? other (t.names ++ [name]) = _
    rw [lastIndex?_concat]
    simp only [eq_comm (a := name)]
    rfl

/-- The names with their numbers, entered into a map one after the other. -/
def index (t : KindTable) : Assoc String Kind := Assoc.ofEntries t.names.zipIdx

theorem index_concat (names : List String) (name : String) :
    index ⟨names ++ [name]⟩ = (index ⟨names⟩).put name names.length := by
  rw [index, List.zipIdx_append, Assoc.ofEntries, List.foldl_append, Nat.zero_add]
  rfl

/-- A map made from the names finds what the table finds. -/
theorem get?_index (t : KindTable) (name : String) : t.index.get? name = t.get? name := by
  obtain ⟨names⟩ := t
  induction names using List.reverseRecOn with
  | nil => rfl
  | append_singleton names last ih =>
    rw [index_concat, Assoc.get?_put, ih, get?, get?, lastIndex?_concat]
    simp only [eq_comm (a := name)]

end KindTable
end GrammarKit
