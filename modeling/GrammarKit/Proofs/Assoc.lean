import GrammarKit.Assoc
import Mathlib.Algebra.Order.BigOperators.Group.List
import Mathlib.Algebra.Order.Ring.Nat
import Mathlib.Data.List.Flatten
import Mathlib.Data.List.Induction
import Mathlib.Data.List.Nodup

/-!
# Maps that were built entry by entry

Altering a key keeps the order of the keys and puts a new one last (`keys_alter`), so the
keys of a map are those of what was put there, each where it came first. A map without
repeated keys is told by its keys and what they find (`eq_map_get?`).

The map of some entries keeps the last one of every key (`ofEntries`); a map that
collects keeps all, in a list under each key (`collect`). Collecting on top of a map of
entries merges the two by their keys (`collect_ofEntries`). If no key repeats, that is
putting one behind the other (`merge_eq_append`); else something is lost
(`weigh_merge_lt`).
-/
namespace GrammarKit

section EraseDups

variable {α : Type} [DecidableEq α]

omit [DecidableEq α] in
theorem nodup_concat {as : List α} {a : α} : (as ++ [a]).Nodup ↔ a ∉ as ∧ as.Nodup :=
  List.nodup_append_comm.trans List.nodup_cons

/-- A value that is repeated is left out. -/
theorem eraseDups_concat (as : List α) (a : α) :
    (as ++ [a]).eraseDups = if a ∈ as then as.eraseDups else as.eraseDups ++ [a] := by
  rw [List.eraseDups_append]
  by_cases h : a ∈ as
  · simp [h, List.removeAll]
  · simp [h, List.removeAll, List.eraseDups_cons]

theorem nodup_eraseDups (as : List α) : as.eraseDups.Nodup := by
  induction as using List.reverseRecOn with
  | nil => exact List.nodup_nil
  | append_singleton as a ih =>
    rw [eraseDups_concat]
    split
    · exact ih
    · next h => exact nodup_concat.mpr ⟨by rwa [List.mem_eraseDups], ih⟩

theorem eraseDups_eq_self {as : List α} (h : as.Nodup) : as.eraseDups = as := by
  induction as using List.reverseRecOn with
  | nil => rfl
  | append_singleton as a ih =>
    obtain ⟨hnew, has⟩ := nodup_concat.mp h
    rw [eraseDups_concat, if_neg hnew, ih has]

/-- What is left out first would be left out anyway. -/
theorem eraseDups_eraseDups_append (as bs : List α) :
    (as.eraseDups ++ bs).eraseDups = (as ++ bs).eraseDups := by
  induction bs using List.reverseRecOn with
  | nil => rw [List.append_nil, List.append_nil, eraseDups_eq_self (nodup_eraseDups as)]
  | append_singleton bs b ih =>
    rw [← List.append_assoc, ← List.append_assoc, eraseDups_concat, eraseDups_concat, ih]
    simp only [List.mem_append, List.mem_eraseDups]

theorem eraseDups_append_eraseDups (as bs : List α) :
    (as ++ bs.eraseDups).eraseDups = (as ++ bs).eraseDups := by
  induction bs using List.reverseRecOn with
  | nil => rfl
  | append_singleton bs b ih =>
    rw [eraseDups_concat, ← List.append_assoc as bs, eraseDups_concat, ← ih]
    by_cases h : b ∈ bs
    · rw [if_pos h, if_pos (List.mem_append_right as h)]
    · rw [if_neg h, ← List.append_assoc, eraseDups_concat]
      simp only [List.mem_append, List.mem_eraseDups]

/-- Values that keep apart are repeated where their images are. -/
theorem eraseDups_map {β : Type} [DecidableEq β] {f : α → β} {as : List α}
    (hf : ∀ a ∈ as, ∀ b ∈ as, f a = f b → a = b) :
    (as.map f).eraseDups = as.eraseDups.map f := by
  induction as using List.reverseRecOn with
  | nil => rfl
  | append_singleton as a ih =>
    have hmem : f a ∈ as.map f ↔ a ∈ as := by
      refine ⟨fun h => ?_, List.mem_map_of_mem⟩
      obtain ⟨b, hb, heq⟩ := List.mem_map.mp h
      exact hf b (by simp [hb]) a (by simp) heq ▸ hb
    rw [List.map_append, List.map_singleton, eraseDups_concat, eraseDups_concat,
      ih fun b hb c hc => hf b (by simp [hb]) c (by simp [hc])]
    simp only [hmem]
    split
    · rfl
    · rw [List.map_append, List.map_singleton]

/-- Leaving out what is repeated makes a sum of positive numbers smaller. -/
theorem sum_eraseDups_lt {g : α → Nat} (hg : ∀ a, 0 < g a) {as : List α} (h : ¬ as.Nodup) :
    (as.eraseDups.map g).sum < (as.map g).sum := by
  have hle : ∀ bs : List α, (bs.eraseDups.map g).sum ≤ (bs.map g).sum := by
    intro bs
    induction bs using List.reverseRecOn with
    | nil => exact Nat.le_refl 0
    | append_singleton bs b ih =>
      rw [eraseDups_concat, List.map_append, List.sum_append]
      split
      · omega
      · rw [List.map_append, List.sum_append]
        omega
  induction as using List.reverseRecOn with
  | nil => exact absurd List.nodup_nil h
  | append_singleton as a ih =>
    have hpos := hg a
    have has := hle as
    rw [nodup_concat, not_and_or, not_not] at h
    rw [eraseDups_concat, List.map_append, List.sum_append, List.map_singleton,
      List.sum_singleton]
    split
    · omega
    · next hnew =>
      have hrest := ih (h.resolve_left hnew)
      rw [List.map_append, List.sum_append, List.map_singleton, List.sum_singleton]
      omega

end EraseDups

namespace Assoc

variable {κ α : Type} [DecidableEq κ]

/-- Every key comes once. -/
def Proper (m : Assoc κ α) : Prop := (m.map (·.1)).Nodup

theorem mem_keys_alter {f : Option α → α} {m : Assoc κ α} {key k : κ} :
    k ∈ (m.alter f key).map (·.1) ↔ k = key ∨ k ∈ m.map (·.1) := by
  induction m with
  | nil => simp [alter]
  | cons e m ih =>
    unfold alter
    split
    · next h => simp [h]
    · simp only [List.map_cons, List.mem_cons, ih]
      exact or_left_comm

theorem proper_alter {f : Option α → α} {m : Assoc κ α} (h : m.Proper) (key : κ) :
    Proper (m.alter f key) := by
  induction m with
  | nil => exact List.nodup_singleton key
  | cons e m ih =>
    obtain ⟨hne, hm⟩ := List.nodup_cons.mp h
    unfold alter
    split
    · exact List.nodup_cons.mpr ⟨hne, hm⟩
    · next hk =>
      refine List.nodup_cons.mpr ⟨?_, ih hm⟩
      intro hmem
      rcases mem_keys_alter.mp hmem with he | he
      · exact hk he
      · exact hne he

/-- A map without repeated keys has exactly the entries that looking up finds. -/
theorem mem_iff_get? {m : Assoc κ α} (h : m.Proper) {k : κ} {a : α} :
    (k, a) ∈ m ↔ m.get? k = some a := by
  induction m with
  | nil => simp [get?]
  | cons e m ih =>
    obtain ⟨hne, hm⟩ := List.nodup_cons.mp h
    unfold get?
    split
    · next hk =>
      obtain ⟨k', a'⟩ := e
      cases hk
      have hnot : (k', a) ∉ m := fun hmem => hne (List.mem_map.mpr ⟨_, hmem, rfl⟩)
      simp [hnot, eq_comm]
    · next hk =>
      have hhead : (k, a) ≠ e := fun he => hk (he ▸ rfl)
      simp [hhead, ih hm]

/-- What holds of all keys and values still holds after a change that keeps it. -/
theorem forall_mem_alter {P : κ → Prop} {Q : α → Prop} {f : Option α → α} {m : Assoc κ α}
    (hm : ∀ e ∈ m, P e.1 ∧ Q e.2) {key : κ} (hkey : P key)
    (hf : ∀ old, (∀ a ∈ old, Q a) → Q (f old)) : ∀ e ∈ m.alter f key, P e.1 ∧ Q e.2 := by
  induction m with
  | nil => simpa [alter] using ⟨hkey, hf none (by simp)⟩
  | cons e m ih =>
    obtain ⟨he, hm⟩ := List.forall_mem_cons.mp hm
    unfold alter
    split
    · exact List.forall_mem_cons.mpr ⟨⟨he.1, hf _ (by simpa using he.2)⟩, hm⟩
    · exact List.forall_mem_cons.mpr ⟨he, ih hm⟩

/-- What grows by `n` at one value grows by `n` in total. -/
theorem sum_alter {f : Option α → α} {size : α → Nat} {n : Nat} (hnew : size (f none) = n)
    (hold : ∀ a, size (f (some a)) = size a + n) (m : Assoc κ α) (key : κ) :
    ((m.alter f key).map fun e => size e.2).sum = (m.map fun e => size e.2).sum + n := by
  induction m with
  | nil => simp [alter, hnew]
  | cons e m ih =>
    unfold alter
    split
    · simp only [List.map_cons, List.sum_cons, hold]
      omega
    · simp only [List.map_cons, List.sum_cons, ih]
      omega

theorem length_alter_le (f : Option α → α) (m : Assoc κ α) (key : κ) :
    (m.alter f key).length ≤ m.length + 1 := by
  induction m with
  | nil => exact Nat.le_refl 1
  | cons e m ih =>
    unfold alter
    split
    · exact Nat.le_succ _
    · exact Nat.succ_le_succ ih

/-- A new key goes last. -/
theorem alter_eq_concat {f : Option α → α} {m : Assoc κ α} {key : κ} (h : key ∉ m.map (·.1)) :
    m.alter f key = m ++ [(key, f none)] := by
  induction m with
  | nil => rfl
  | cons e m ih =>
    rw [List.map_cons, List.mem_cons, not_or] at h
    obtain ⟨k, b⟩ := e
    rw [alter, if_neg (Ne.symm h.1), ih h.2]
    rfl

theorem put_eq_concat {m : Assoc κ α} {key : κ} (h : key ∉ m.map (·.1)) (a : α) :
    m.put key a = m ++ [(key, a)] :=
  alter_eq_concat h

theorem ofEntries_append_of_proper {m entries : Assoc κ α} (h : Proper (m ++ entries)) :
    entries.foldl (fun m e => m.put e.1 e.2) m = m ++ entries := by
  induction entries generalizing m with
  | nil => exact (List.append_nil m).symm
  | cons e entries ih =>
    have hnew : e.1 ∉ m.map (·.1) := by
      intro hmem
      rw [Proper, List.map_append, List.map_cons, List.nodup_append] at h
      exact h.2.2 e.1 hmem e.1 List.mem_cons_self rfl
    rw [List.foldl_cons, put_eq_concat hnew, List.append_cons m e entries]
    rw [List.append_cons m e entries] at h
    exact ih h

/-- A map without repeated keys is the map of its entries. -/
theorem ofEntries_of_proper {m : Assoc κ α} (h : m.Proper) : ofEntries m = m :=
  ofEntries_append_of_proper h

/-- The map of some entries has every key once, and nothing but these entries. -/
theorem ofEntries_spec {P : κ → Prop} {Q : α → Prop} {entries : List (κ × α)}
    (h : ∀ e ∈ entries, P e.1 ∧ Q e.2) : (ofEntries entries).Proper ∧
      (ofEntries entries).length ≤ entries.length ∧ ∀ e ∈ ofEntries entries, P e.1 ∧ Q e.2 := by
  have hfold : ∀ m : Assoc κ α, m.Proper → (∀ e ∈ m, P e.1 ∧ Q e.2) →
      Proper (entries.foldl (fun m e => m.put e.1 e.2) m) ∧
        (entries.foldl (fun m e => m.put e.1 e.2) m).length ≤ m.length + entries.length ∧
        ∀ e ∈ entries.foldl (fun m e => m.put e.1 e.2) m, P e.1 ∧ Q e.2 := by
    induction entries with
    | nil => exact fun m hm hall => ⟨hm, Nat.le_refl _, hall⟩
    | cons e entries ih =>
      intro m hm hall
      obtain ⟨he, hentries⟩ := List.forall_mem_cons.mp h
      have hlen := length_alter_le (fun _ => e.2) m e.1
      obtain ⟨hproper, hle, hmem⟩ := ih hentries (m.put e.1 e.2) (proper_alter hm e.1)
        (forall_mem_alter hall he.1 fun _ _ => he.2)
      refine ⟨hproper, Nat.le_trans hle ?_, hmem⟩
      rw [List.length_cons]
      show (m.alter _ e.1).length + _ ≤ _
      omega
  obtain ⟨hproper, hle, hmem⟩ := hfold [] List.nodup_nil (by simp)
  exact ⟨hproper, by rwa [List.length_nil, Nat.zero_add] at hle, hmem⟩

/-- What is appended under a key is appended to all values together, up to order. -/
theorem flatMap_alter_perm (ids : List α) (m : Assoc κ (List α)) (key : κ) :
    ((m.alter (fun known => known.getD [] ++ ids) key).flatMap (·.2)).Perm
      (m.flatMap (·.2) ++ ids) := by
  induction m with
  | nil => simp [alter]
  | cons e m ih =>
    unfold alter
    split
    · simp only [List.flatMap_cons, Option.getD_some, List.append_assoc]
      exact (List.perm_append_comm).append_left e.2
    · simp only [List.flatMap_cons, List.append_assoc]
      exact ih.append_left e.2

/-- The place of a key, which is last for a new one. -/
def place (m : Assoc κ α) (key : κ) : Nat := (m.index? key).getD m.length

theorem place_cons (e : κ × α) (m : Assoc κ α) (key : κ) :
    place (e :: m) key = if e.1 = key then 0 else place m key + 1 := by
  rw [place, place, index?]
  split
  · rfl
  · cases index? m key <;> rfl

/-- Altering a key puts it in its place, if it is not there yet. -/
theorem index?_alter (f : Option α → α) (m : Assoc κ α) (key : κ) :
    (m.alter f key).index? key = some (place m key) := by
  induction m with
  | nil => simp [alter, index?, place]
  | cons e m ih =>
    rw [place_cons]
    unfold alter
    split
    · next hk => simp [index?, hk]
    · next hk =>
      rw [index?, if_neg hk, ih]
      rfl

theorem getElem?_place_alter (f : Option α → α) (m : Assoc κ α) (key : κ) :
    (m.alter f key)[place m key]? = some (key, f (m.get? key)) := by
  induction m with
  | nil => rfl
  | cons e m ih =>
    rw [place_cons]
    unfold alter get?
    split
    · next hk => simp [hk]
    · rw [List.getElem?_cons_succ, ih]

/-- Changing the value in the place of a key is another way to alter it. -/
theorem set_place_alter (f g : Option α → α) (m : Assoc κ α) (key : κ) :
    (m.alter f key).set (place m key) (key, g (m.get? key)) = m.alter g key := by
  induction m with
  | nil => rfl
  | cons e m ih =>
    rw [place_cons]
    unfold alter get?
    split
    · next hk => simp [hk]
    · rw [List.set_cons_succ, ih]

/-! ## Keys in their order -/

/-- Altering a known key keeps the keys; a new one goes last. -/
theorem keys_alter (f : Option α → α) (m : Assoc κ α) (key : κ) :
    (m.alter f key).map (·.1) =
      if key ∈ m.map (·.1) then m.map (·.1) else m.map (·.1) ++ [key] := by
  induction m with
  | nil => rfl
  | cons e m ih =>
    obtain ⟨k, a⟩ := e
    unfold alter
    split
    · next hk => simp [hk]
    · next hk =>
      rw [List.map_cons, ih]
      simp only [List.map_cons, List.mem_cons, Ne.symm hk, false_or]
      split
      · rfl
      · rfl

/-- A map without repeated keys is told by its keys and what they find. -/
theorem eq_map_get? {m : Assoc κ α} (h : m.Proper) (default : α) :
    m = (m.map (·.1)).map fun k => (k, (m.get? k).getD default) := by
  rw [List.map_map]
  refine (List.map_id m).symm.trans (List.map_congr_left fun e he => ?_)
  rw [Function.comp_apply, (mem_iff_get? h).mp he]
  rfl

/-- What is found under a key is one of its entries. -/
theorem mem_of_get? {m : Assoc κ α} {k : κ} {a : α} (h : m.get? k = some a) : (k, a) ∈ m := by
  induction m with
  | nil => cases h
  | cons e m ih =>
    obtain ⟨k', a'⟩ := e
    unfold get? at h
    split at h
    · next hk =>
      cases h
      rw [hk]
      exact List.mem_cons_self
    · exact List.mem_cons_of_mem _ (ih h)

theorem get?_eq_none_iff {m : Assoc κ α} {k : κ} : m.get? k = none ↔ k ∉ m.map (·.1) := by
  induction m with
  | nil => exact iff_of_true rfl List.not_mem_nil
  | cons e m ih =>
    rw [get?, List.map_cons, List.mem_cons, not_or]
    split
    · next hk => exact iff_of_false (Option.some_ne_none e.2) fun h => h.1 hk.symm
    · next hk => exact ih.trans ⟨fun h => ⟨Ne.symm hk, h⟩, fun h => h.2⟩

theorem filter_key_of_mem {m : Assoc κ α} (h : m.Proper) {e : κ × α} (he : e ∈ m) :
    m.filter (·.1 = e.1) = [e] := by
  induction m with
  | nil => cases he
  | cons e' m ih =>
    obtain ⟨hnew, hm⟩ := List.nodup_cons.mp h
    rcases List.mem_cons.mp he with heq | he
    · have hnil : m.filter (·.1 = e'.1) = [] := by
        refine List.filter_eq_nil_iff.mpr fun e'' he'' hkey => ?_
        exact hnew (List.mem_map.mpr ⟨e'', he'', of_decide_eq_true hkey⟩)
      rw [heq, List.filter_cons_of_pos (by simp), hnil]
    · have hne : e'.1 ≠ e.1 := fun hkey => hnew (List.mem_map.mpr ⟨e, he, hkey.symm⟩)
      rw [List.filter_cons_of_neg (by simpa using hne), ih hm he]

theorem proper_ofEntries (entries : List (κ × α)) : (ofEntries entries).Proper :=
  (ofEntries_spec (P := fun _ => True) (Q := fun _ => True) fun _ _ => ⟨trivial, trivial⟩).1

theorem ofEntries_concat (entries : List (κ × α)) (e : κ × α) :
    ofEntries (entries ++ [e]) = (ofEntries entries).put e.1 e.2 := by
  rw [ofEntries, List.foldl_append]
  rfl

theorem keys_ofEntries (entries : List (κ × α)) :
    (ofEntries entries).map (·.1) = (entries.map (·.1)).eraseDups := by
  induction entries using List.reverseRecOn with
  | nil => rfl
  | append_singleton entries e ih =>
    rw [ofEntries_concat, put, keys_alter, ih, List.map_append, List.map_singleton,
      eraseDups_concat]
    simp only [List.mem_eraseDups]

/-- The map of some entries has the last one of every key. -/
theorem get?_ofEntries (entries : List (κ × α)) (k : κ) :
    (ofEntries entries).get? k = ((entries.filter (·.1 = k)).getLast?).map (·.2) := by
  induction entries using List.reverseRecOn with
  | nil => rfl
  | append_singleton entries e ih =>
    rw [ofEntries_concat, get?_put, ih, List.filter_append, List.filter_singleton]
    by_cases hk : e.1 = k
    · simp [hk]
    · simp [hk, Ne.symm hk]

/-! ## Collecting -/

/-- The map with more entries, where each key has a list of all that came under it. -/
def collect (m : Assoc κ (List α)) (entries : List (κ × α)) : Assoc κ (List α) :=
  entries.foldl (fun m e => m.alter (fun known => known.getD [] ++ [e.2]) e.1) m

section Collect

variable (m : Assoc κ (List α)) (entries : List (κ × α))

theorem collect_concat (e : κ × α) : collect m (entries ++ [e]) =
    (collect m entries).alter (fun known => known.getD [] ++ [e.2]) e.1 := by
  rw [collect, List.foldl_append]
  rfl

variable {m} in
theorem proper_collect (h : m.Proper) : (collect m entries).Proper := by
  induction entries using List.reverseRecOn with
  | nil => exact h
  | append_singleton entries e ih =>
    rw [collect_concat]
    exact proper_alter ih e.1

variable {m} in
theorem keys_collect (h : m.Proper) :
    (collect m entries).map (·.1) = (m.map (·.1) ++ entries.map (·.1)).eraseDups := by
  induction entries using List.reverseRecOn with
  | nil => rw [List.map_nil, List.append_nil, eraseDups_eq_self h]; rfl
  | append_singleton entries e ih =>
    rw [collect_concat, keys_alter, ih, List.map_append, ← List.append_assoc, List.map_singleton,
      eraseDups_concat]
    simp only [List.mem_eraseDups]

theorem get?_collect (k : κ) : ((collect m entries).get? k).getD [] =
    (m.get? k).getD [] ++ (entries.filter (·.1 = k)).map (·.2) := by
  induction entries using List.reverseRecOn with
  | nil => exact (List.append_nil _).symm
  | append_singleton entries e ih =>
    rw [collect_concat, get?_alter, List.filter_append, List.filter_singleton]
    by_cases hk : e.1 = k
    · simp [hk, ih]
    · simp [hk, Ne.symm hk, ih]

theorem flatMap_collect_perm :
    ((collect m entries).flatMap (·.2)).Perm (m.flatMap (·.2) ++ entries.map (·.2)) := by
  induction entries using List.reverseRecOn with
  | nil => rw [List.map_nil, List.append_nil]; exact .refl _
  | append_singleton entries e ih =>
    rw [collect_concat, List.map_append, ← List.append_assoc]
    exact (flatMap_alter_perm [e.2] _ e.1).trans (ih.append_right _)

end Collect

/-! ## Merging -/

/-- Entries and a map by their keys: each key once, where it came first, with the last of
the entries followed by what the map has. -/
def merge (entries m : Assoc κ (List α)) : Assoc κ (List α) :=
  ((entries ++ m).map (·.1)).eraseDups.map fun k =>
    (k, (((entries.filter (·.1 = k)).getLast?).map (·.2)).getD [] ++ (m.get? k).getD [])

/-- Collecting on top of the map of some entries merges these with what is collected. -/
theorem collect_ofEntries (entries : Assoc κ (List α)) (added : List (κ × α)) :
    collect (ofEntries entries) added = merge entries (collect [] added) := by
  have hproper := proper_ofEntries entries
  rw [eq_map_get? (proper_collect added hproper) [], keys_collect added hproper, merge,
    List.map_append, keys_collect added (m := []) List.nodup_nil, keys_ofEntries]
  simp only [get?_collect, get?_ofEntries, List.map_nil, List.nil_append,
    eraseDups_append_eraseDups, eraseDups_eraseDups_append, get?, Option.getD_none]

/-- Without repeated keys there is nothing to merge. -/
theorem merge_eq_append {entries m : Assoc κ (List α)} (h : Proper (entries ++ m)) :
    merge entries m = entries ++ m := by
  have hparts := h
  rw [Proper, List.map_append, List.nodup_append] at hparts
  obtain ⟨hentries, hm, hdisjoint⟩ := hparts
  rw [merge, eraseDups_eq_self h, List.map_map]
  refine (List.map_congr_left fun e he => ?_).trans (List.map_id _)
  rw [Function.comp_apply]
  rcases List.mem_append.mp he with he | he
  · have hnone : m.get? e.1 = none := get?_eq_none_iff.mpr fun hmem =>
      hdisjoint e.1 (List.mem_map_of_mem he) e.1 hmem rfl
    rw [filter_key_of_mem hentries he, hnone]
    exact congrArg (e.1, ·) (List.append_nil e.2)
  · have hnil : entries.filter (·.1 = e.1) = [] := by
      refine List.filter_eq_nil_iff.mpr fun e' he' heq => ?_
      exact hdisjoint e'.1 (List.mem_map_of_mem he') e.1 (List.mem_map_of_mem he)
        (of_decide_eq_true heq)
    rw [hnil, (mem_iff_get? hm).mp he]
    rfl

section Weigh

variable (g : κ → Nat) (f : α → Nat)

/-- The weights of all keys and of all that is listed under them. -/
def weigh (m : Assoc κ (List α)) : Nat := (m.map fun e => g e.1 + (e.2.map f).sum).sum

omit [DecidableEq κ] in
theorem weigh_eq (m : Assoc κ (List α)) :
    weigh g f m = ((m.map (·.1)).map g).sum + ((m.flatMap (·.2)).map f).sum := by
  induction m with
  | nil => rfl
  | cons e m ih =>
    rw [weigh] at ih ⊢
    simp only [List.map_cons, List.sum_cons, List.flatMap_cons, List.map_append, List.sum_append]
    omega

theorem sum_flatMap_put_le (m : Assoc κ (List α)) (key : κ) (as : List α) :
    (((m.put key as).flatMap (·.2)).map f).sum ≤
      ((m.flatMap (·.2)).map f).sum + (as.map f).sum := by
  unfold put
  induction m with
  | nil => simp [alter]
  | cons e m ih =>
    unfold alter
    split
    · simp only [List.flatMap_cons, List.map_append, List.sum_append]
      omega
    · simp only [List.flatMap_cons, List.map_append, List.sum_append]
      omega

theorem sum_flatMap_ofEntries_le (entries : Assoc κ (List α)) :
    (((ofEntries entries).flatMap (·.2)).map f).sum ≤
      ((entries.flatMap (·.2)).map f).sum := by
  induction entries using List.reverseRecOn with
  | nil => exact Nat.le_refl 0
  | append_singleton entries e ih =>
    have hput := sum_flatMap_put_le f (ofEntries entries) e.1 e.2
    rw [ofEntries_concat, List.flatMap_append, List.map_append, List.sum_append,
      List.flatMap_singleton]
    omega

theorem sum_flatMap_collect (m : Assoc κ (List α)) (added : List (κ × α)) :
    (((collect m added).flatMap (·.2)).map f).sum =
      ((m.flatMap (·.2)).map f).sum + ((added.map (·.2)).map f).sum := by
  rw [((flatMap_collect_perm m added).map f).sum_eq, List.map_append, List.sum_append]

/-- If a key repeats, merging weighs less than keeping all entries. -/
theorem weigh_merge_lt (hg : ∀ k, 0 < g k) {entries : Assoc κ (List α)} {added : List (κ × α)}
    (h : ¬ Proper (entries ++ collect [] added)) :
    weigh g f (merge entries (collect [] added)) < weigh g f (entries ++ collect [] added) := by
  have hkeys : (merge entries (collect [] added)).map (·.1) =
      ((entries ++ collect [] added).map (·.1)).eraseDups := by
    rw [merge, List.map_map]
    exact List.map_id _
  have hlt := sum_eraseDups_lt hg h
  have hvalues := sum_flatMap_ofEntries_le f entries
  rw [weigh_eq, weigh_eq, hkeys, ← collect_ofEntries, sum_flatMap_collect, List.flatMap_append,
    List.map_append (f := f), List.sum_append, sum_flatMap_collect]
  rw [List.flatMap_nil, List.map_nil, List.sum_nil]
  omega

end Weigh

end Assoc

end GrammarKit
