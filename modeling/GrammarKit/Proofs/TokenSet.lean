import GrammarKit.TokenSet
import Mathlib.Data.List.Nodup
import Mathlib.Data.List.Perm.Subperm

/-!
# Ascending lists of tokens

The operations on token sets keep them ascending, and on ascending lists
`TokenSet.diff` is the difference of sets (`mem_diff`). An ascending list holds
nothing twice, so sets with the same members are equal (`Ascending.ext`), a set
within another one is at most as long (`length_le`), and adding something that was
missing makes a set longer (`length_union_lt`).
-/
namespace GrammarKit.TokenSet

/-- Every member is less than the ones after it. -/
def Ascending (s : TokenSet) : Prop := s.Pairwise (· < ·)

instance (s : TokenSet) : Decidable (Ascending s) := inferInstanceAs (Decidable (s.Pairwise (· < ·)))

theorem ascending_insert {s : TokenSet} (h : Ascending s) (t : TokenId) :
    Ascending (insert t s) := by
  induction s with
  | nil => exact List.pairwise_singleton _ t
  | cons a s ih =>
    obtain ⟨ha, hs⟩ := List.pairwise_cons.mp h
    unfold insert
    split
    · rename_i hlt
      refine List.pairwise_cons.mpr ⟨?_, h⟩
      intro b hb
      rcases List.mem_cons.mp hb with rfl | hb
      · exact hlt
      · exact Nat.lt_trans hlt (ha b hb)
    · split
      · exact h
      · rename_i hle hne
        refine List.pairwise_cons.mpr ⟨?_, ih hs⟩
        intro b hb
        rcases mem_insert.mp hb with rfl | hb
        · exact Nat.lt_of_le_of_ne (Nat.le_of_not_lt hle) (Ne.symm hne)
        · exact ha b hb

theorem ascending_insertAll {s : TokenSet} (h : Ascending s) (ts : List TokenId) :
    Ascending (insertAll s ts) := by
  induction ts generalizing s with
  | nil => exact h
  | cons t ts ih => exact ih (ascending_insert h t)

/-- A larger member goes last. -/
theorem insert_eq_concat {s : TokenSet} {t : TokenId} (h : ∀ u ∈ s, u < t) :
    insert t s = s ++ [t] := by
  induction s with
  | nil => rfl
  | cons u s ih =>
    obtain ⟨hu, hs⟩ := List.forall_mem_cons.mp h
    rw [insert, if_neg (Nat.lt_asymm hu), if_neg (Nat.ne_of_gt hu), ih hs]
    rfl

theorem insertAll_eq_append {s : TokenSet} {ts : List TokenId} (h : Ascending (s ++ ts)) :
    insertAll s ts = s ++ ts := by
  induction ts generalizing s with
  | nil => exact (List.append_nil s).symm
  | cons t ts ih =>
    have hlt : ∀ u ∈ s, u < t := fun u hu =>
      (List.pairwise_append.mp h).2.2 u hu t List.mem_cons_self
    show insertAll (insert t s) ts = _
    rw [insert_eq_concat hlt, List.append_cons s t ts]
    rw [List.append_cons s t ts] at h
    exact ih h

/-- The set of ascending members is the list of these members. -/
theorem ofList_of_ascending {ts : List TokenId} (h : Ascending ts) : ofList ts = ts :=
  insertAll_eq_append h

theorem length_insert_le (t : TokenId) (s : TokenSet) : (insert t s).length ≤ s.length + 1 := by
  induction s with
  | nil => exact Nat.le_refl 1
  | cons u s ih =>
    unfold insert
    split
    · exact Nat.le_refl _
    · split
      · exact Nat.le_succ _
      · exact Nat.succ_le_succ ih

theorem length_insertAll_le (s : TokenSet) (ts : List TokenId) :
    (insertAll s ts).length ≤ s.length + ts.length := by
  induction ts generalizing s with
  | nil => exact Nat.le_refl _
  | cons t ts ih =>
    have h := ih (insert t s)
    have := length_insert_le t s
    rw [List.length_cons]
    show (insertAll (insert t s) ts).length ≤ _
    omega

theorem ascending_nil : Ascending [] := List.Pairwise.nil

theorem ascending_singleton (t : TokenId) : Ascending [t] := List.pairwise_singleton _ t

theorem ascending_union {s t : TokenSet} (hs : Ascending s) (ht : Ascending t) :
    Ascending (union s t) := by
  fun_induction union s t with
  | case1 => exact ht
  | case2 => exact hs
  | case3 a s b t hlt ih =>
    obtain ⟨ha, hs⟩ := List.pairwise_cons.mp hs
    refine List.pairwise_cons.mpr ⟨?_, ih hs ht⟩
    intro c hc
    rcases mem_union.mp hc with hc | hc
    · exact ha c hc
    · rcases List.mem_cons.mp hc with rfl | hc
      · exact hlt
      · exact Nat.lt_trans hlt ((List.pairwise_cons.mp ht).1 c hc)
  | case4 a s t _ ih =>
    obtain ⟨ha, hs⟩ := List.pairwise_cons.mp hs
    obtain ⟨hb, ht⟩ := List.pairwise_cons.mp ht
    refine List.pairwise_cons.mpr ⟨?_, ih hs ht⟩
    intro c hc
    rcases mem_union.mp hc with hc | hc
    · exact ha c hc
    · exact hb c hc
  | case5 a s b t hle hne ih =>
    obtain ⟨hb, ht⟩ := List.pairwise_cons.mp ht
    have hba : b < a := Nat.lt_of_le_of_ne (Nat.le_of_not_lt hle) (Ne.symm hne)
    refine List.pairwise_cons.mpr ⟨?_, ih hs ht⟩
    intro c hc
    rcases mem_union.mp hc with hc | hc
    · rcases List.mem_cons.mp hc with rfl | hc
      · exact hba
      · exact Nat.lt_trans hba ((List.pairwise_cons.mp hs).1 c hc)
    · exact hb c hc

/-- The head of an ascending list is less than everything else in it. -/
theorem lt_of_mem_tail {a b : TokenId} {s : TokenSet} (h : Ascending (a :: s)) (hb : b ∈ s) :
    a < b :=
  (List.pairwise_cons.mp h).1 b hb

theorem mem_diff {u : TokenId} {s t : TokenSet} (hs : Ascending s) (ht : Ascending t) :
    u ∈ diff s t ↔ u ∈ s ∧ u ∉ t := by
  fun_induction diff s t with
  | case1 => simp
  | case2 => simp
  | case3 a s b t hlt ih =>
    have ih := ih (List.pairwise_cons.mp hs).2 ht
    have hat : a ∉ b :: t := by
      intro h
      rcases List.mem_cons.mp h with rfl | h
      · exact Nat.lt_irrefl _ hlt
      · exact Nat.lt_asymm hlt (lt_of_mem_tail ht h)
    simp only [List.mem_cons (a := u) (b := a), ih]
    constructor
    · intro h
      rcases h with rfl | ⟨hus, hut⟩
      · exact ⟨Or.inl rfl, hat⟩
      · exact ⟨Or.inr hus, hut⟩
    · intro h
      obtain ⟨rfl | hus, hut⟩ := h
      · exact Or.inl rfl
      · exact Or.inr ⟨hus, hut⟩
  | case4 a s t _ ih =>
    have ih := ih (List.pairwise_cons.mp hs).2 (List.pairwise_cons.mp ht).2
    rw [ih]
    simp only [List.mem_cons]
    constructor
    · intro h
      obtain ⟨hus, hut⟩ := h
      refine ⟨Or.inr hus, ?_⟩
      intro h
      rcases h with rfl | h
      · exact Nat.lt_irrefl _ (lt_of_mem_tail hs hus)
      · exact hut h
    · intro h
      obtain ⟨rfl | hus, hut⟩ := h
      · exact absurd (Or.inl rfl) hut
      · exact ⟨hus, fun h => hut (Or.inr h)⟩
  | case5 a s b t hle hne ih =>
    have ih := ih hs (List.pairwise_cons.mp ht).2
    have hba : b < a := Nat.lt_of_le_of_ne (Nat.le_of_not_lt hle) (Ne.symm hne)
    rw [ih]
    constructor
    · intro h
      obtain ⟨hus, hut⟩ := h
      refine ⟨hus, fun h => ?_⟩
      rcases List.mem_cons.mp h with rfl | h
      · rcases List.mem_cons.mp hus with rfl | hus
        · exact Nat.lt_irrefl _ hba
        · exact Nat.lt_asymm hba (lt_of_mem_tail hs hus)
      · exact hut h
    · intro h
      obtain ⟨hus, hut⟩ := h
      exact ⟨hus, fun h => hut (List.mem_cons_of_mem b h)⟩

/-- Nothing is missing exactly if the first set lies within the second. -/
theorem isEmpty_diff_iff {s t : TokenSet} (hs : Ascending s) (ht : Ascending t) :
    (diff s t).isEmpty = true ↔ ∀ u ∈ s, u ∈ t := by
  rw [List.isEmpty_iff, List.eq_nil_iff_forall_not_mem]
  constructor
  · intro h u hu
    by_cases hut : u ∈ t
    · exact hut
    · exact absurd ((mem_diff hs ht).mpr ⟨hu, hut⟩) (h u)
  · intro h u hu
    obtain ⟨hus, hut⟩ := (mem_diff hs ht).mp hu
    exact hut (h u hus)

theorem Ascending.nodup {s : TokenSet} (h : Ascending s) : s.Nodup :=
  List.Pairwise.imp Nat.ne_of_lt h

/-- Sets with the same members are the same list. -/
theorem Ascending.ext {s t : TokenSet} (hs : Ascending s) (ht : Ascending t)
    (h : ∀ u, u ∈ s ↔ u ∈ t) : s = t :=
  List.Perm.eq_of_pairwise (fun _ _ _ _ hab hba => absurd hab (Nat.lt_asymm hba)) hs ht
    ((List.perm_ext_iff_of_nodup hs.nodup ht.nodup).mpr h)

/-- Adding what is missing makes the union. -/
theorem insertAll_diff {s t : TokenSet} (hs : Ascending s) (ht : Ascending t) :
    insertAll t (diff s t) = union s t := by
  apply (ascending_insertAll ht _).ext (ascending_union hs ht)
  intro u
  rw [mem_insertAll, mem_union, mem_diff hs ht]
  by_cases hu : u ∈ t <;> simp [hu]

/-- A set within another one is at most as long. -/
theorem length_le {s : TokenSet} {t : List TokenId} (hs : Ascending s) (h : ∀ u ∈ s, u ∈ t) :
    s.length ≤ t.length :=
  (hs.nodup.subperm h).length_le

/-- A union with something new is longer. -/
theorem length_union_lt {s t : TokenSet} (ht : Ascending t)
    (h : (diff s t).isEmpty = false) (hs : Ascending s) : t.length < (union s t).length := by
  obtain ⟨u, hu⟩ := List.exists_mem_of_ne_nil (diff s t) (by simpa using h)
  obtain ⟨hus, hut⟩ := (mem_diff hs ht).mp hu
  have hnodup : (u :: t).Nodup := List.nodup_cons.mpr ⟨hut, ht.nodup⟩
  have hsub : ∀ v ∈ u :: t, v ∈ union s t := by
    intro v hv
    rcases List.mem_cons.mp hv with rfl | hv
    · exact mem_union.mpr (Or.inl hus)
    · exact mem_union.mpr (Or.inr hv)
  exact (hnodup.subperm hsub).length_le

end GrammarKit.TokenSet
