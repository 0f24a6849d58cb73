import GrammarKit.Compile.Variant
import GrammarKit.Proofs.Rank
import Mathlib

/-!
# The numbers of variants

Numbering gives the variants of the declared rules ids in a row and enters them
into the index. `Numbering.Lists` says what comes out: the variants are the ways
to keep parameters of each rule, and the index lists each variant exactly under
the kind and rank of its rule.
-/
namespace GrammarKit.Compile

/-- The rule id `q` is that of a variant of a declaration of the ranked type. The
declarations have the places from `decl` on, the variants the ids from `id` on. -/
def IsVariant (decl : Nat) (id : RuleId) (rules : List RuleDecl) (variants : List Variant)
    (q : RuleId) (ranked : RankedType) : Prop :=
  ∃ j v i r, variants[j]? = some v ∧ q = id + j ∧ rules[i]? = some r ∧ v.decl = decl + i ∧
    r.ranked = ranked

/-- The numbering lists the variants of `rules`, the declarations from place `decl` on,
with ids from `id` on, after what `before` lists. -/
structure Numbering.Lists (decl : Nat) (id : RuleId) (before : RankIndex)
    (rules : List RuleDecl) (n : Numbering) : Prop where
  valid : n.ranks.Valid
  mem_variants : ∀ v, v ∈ n.variants ↔
    ∃ i r, rules[i]? = some r ∧ v.decl = decl + i ∧ v.kept < 2 ^ r.optionalCount
  mem_rulesAt : ∀ q ranked, q ∈ n.ranks.rulesAt ranked ↔
    q ∈ before.rulesAt ranked ∨ IsVariant decl id rules n.variants q ranked

/-- The index after the variants of one rule. -/
def addVariants (id : RuleId) (ranks : RankIndex) (r : RuleDecl) : RankIndex :=
  ranks.add r.ranked (List.range' id (2 ^ r.optionalCount))

/-- The variants of one rule. -/
def variantsOf (decl : Nat) (r : RuleDecl) : List Variant :=
  (List.range (2 ^ r.optionalCount)).map fun kept => ⟨decl, kept⟩

variable {maxOptionals decl : Nat} {id : RuleId} {ranks : RankIndex} {r : RuleDecl}
  {rules : List RuleDecl} {n : Numbering}

/-- Numbering goes rule by rule; whether a ranked type is new only matters to the journal. -/
theorem numberFrom_cons_outcome (maxOptionals decl : Nat) (id : RuleId) (ranks : RankIndex)
    (r : RuleDecl) (rules : List RuleDecl) :
    (numberFrom maxOptionals decl id ranks (r :: rules)).outcome =
      (Journaled.require (.tooManyOptionals r.action r.optionalCount maxOptionals)
        (variantCount? maxOptionals r)).outcome.bind fun count =>
          (numberFrom maxOptionals (decl + 1) (id + count)
            (ranks.add r.ranked (List.range' id count)) rules).outcome.map fun later =>
              ⟨later.ranks, ((List.range count).map fun kept => ⟨decl, kept⟩) ++ later.variants⟩ := by
  rw [numberFrom]
  split
  · simp only [Journaled.outcome_bind, Journaled.outcome_map, Journaled.outcome_tell]
    rfl
  · simp only [Journaled.outcome_bind, Journaled.outcome_map]

/-- The variants of the first rule get the first ids. -/
theorem numberFrom_cons_ok
    (h : (numberFrom maxOptionals decl id ranks (r :: rules)).outcome = .ok n) :
    ∃ later, (numberFrom maxOptionals (decl + 1) (id + 2 ^ r.optionalCount)
        (addVariants id ranks r) rules).outcome = .ok later ∧
      n = ⟨later.ranks, variantsOf decl r ++ later.variants⟩ := by
  have hcount : ∀ c, variantCount? maxOptionals r = some c → c = 2 ^ r.optionalCount := by
    intro c hc
    unfold variantCount? at hc
    split at hc
    · rw [← Option.some.inj hc, Nat.one_shiftLeft]
    · cases hc
  rw [numberFrom_cons_outcome] at h
  obtain ⟨c, hc, h⟩ := bind_eq_ok_iff.mp h
  obtain ⟨later, hl, rfl⟩ := Journaled.map_ok_iff.mp h
  cases hcount c (Journaled.require_ok_iff.mp hc)
  exact ⟨later, hl, rfl⟩

theorem length_variantsOf : (variantsOf decl r).length = 2 ^ r.optionalCount := by
  simp [variantsOf]

theorem mem_variantsOf_iff {v : Variant} :
    v ∈ variantsOf decl r ↔ v.decl = decl ∧ v.kept < 2 ^ r.optionalCount := by
  simp only [variantsOf, List.mem_map, List.mem_range]
  constructor
  · intro h
    obtain ⟨kept, hk, rfl⟩ := h
    exact ⟨rfl, hk⟩
  · intro h
    obtain ⟨rfl, hk⟩ := h
    exact ⟨v.kept, hk, rfl⟩

theorem mem_rulesAt_addVariants_iff (decl : Nat) {q : RuleId} {ranked : RankedType} :
    q ∈ (addVariants id ranks r).rulesAt ranked ↔ q ∈ ranks.rulesAt ranked ∨
      (r.ranked = ranked ∧ ∃ j v, (variantsOf decl r)[j]? = some v ∧ q = id + j) := by
  have hrange : q ∈ List.range' id (2 ^ r.optionalCount) ↔
      ∃ j v, (variantsOf decl r)[j]? = some v ∧ q = id + j := by
    rw [List.mem_range'_1]
    constructor
    · intro h
      have hlt : q - id < (variantsOf decl r).length := by rw [length_variantsOf]; grind
      exact ⟨q - id, _, List.getElem?_eq_getElem hlt, by grind⟩
    · intro h
      obtain ⟨j, v, hj, rfl⟩ := h
      obtain ⟨hlt, -⟩ := List.getElem?_eq_some_iff.mp hj
      rw [length_variantsOf] at hlt
      grind
  rw [addVariants, RankIndex.rulesAt_add]
  split
  · next h =>
    rw [List.mem_append, hrange, h]
    simp
  · next h =>
    have : ¬ r.ranked = ranked := fun he => h he.symm
    simp [this]

/-- The variants of the first rule come first. -/
theorem isVariant_cons_iff {later : List Variant} {q : RuleId} {ranked : RankedType}
    (hlater : ∀ v ∈ later, decl < v.decl) :
    IsVariant decl id (r :: rules) (variantsOf decl r ++ later) q ranked ↔
      (r.ranked = ranked ∧ ∃ j v, (variantsOf decl r)[j]? = some v ∧ q = id + j) ∨
        IsVariant (decl + 1) (id + 2 ^ r.optionalCount) rules later q ranked := by
  constructor
  · intro h
    obtain ⟨j, v, i, r', hj, hq, hr', hd, hrank⟩ := h
    rcases Nat.lt_or_ge j (variantsOf decl r).length with hlt | hge
    · rw [List.getElem?_append_left hlt] at hj
      have hd' := (mem_variantsOf_iff.mp (List.mem_of_getElem? hj)).1
      have hi : i = 0 := by omega
      subst hi
      cases hr'
      exact Or.inl ⟨hrank, j, v, hj, hq⟩
    · rw [List.getElem?_append_right hge] at hj
      rw [length_variantsOf] at hge hj
      have hd' := hlater v (List.mem_of_getElem? hj)
      cases i with
      | zero => omega
      | succ i =>
        exact Or.inr ⟨j - 2 ^ r.optionalCount, v, i, r', hj, by grind, hr', by omega, hrank⟩
  · intro h
    rcases h with ⟨hrank, j, v, hj, hq⟩ | ⟨j, v, i, r', hj, hq, hr', hd, hrank⟩
    · have hd := (mem_variantsOf_iff.mp (List.mem_of_getElem? hj)).1
      obtain ⟨hlt, -⟩ := List.getElem?_eq_some_iff.mp hj
      exact ⟨j, v, 0, r, by rw [List.getElem?_append_left hlt]; exact hj, hq, rfl, hd, hrank⟩
    · refine ⟨2 ^ r.optionalCount + j, v, i + 1, r', ?_, by grind, hr', by omega, hrank⟩
      rw [List.getElem?_append_right (by rw [length_variantsOf]; omega), length_variantsOf]
      rwa [Nat.add_sub_cancel_left]

/-- **Numbering.** From a valid index, numbering lists the variants of the rules. -/
theorem numberFrom_lists (hv : ranks.Valid)
    (h : (numberFrom maxOptionals decl id ranks rules).outcome = .ok n) :
    n.Lists decl id ranks rules := by
  induction rules generalizing decl id ranks n with
  | nil =>
    have hn : n = ⟨ranks, []⟩ := by
      unfold numberFrom at h
      exact (Except.ok.inj h).symm
    subst hn
    exact ⟨hv, by simp, by simp [IsVariant]⟩
  | cons r rules ih =>
    obtain ⟨later, hl, rfl⟩ := numberFrom_cons_ok h
    have hlater :
        later.Lists (decl + 1) (id + 2 ^ r.optionalCount) (addVariants id ranks r) rules :=
      ih (RankIndex.valid_add hv _ _) hl
    refine ⟨hlater.valid, ?_, ?_⟩
    · intro v
      rw [List.mem_append, mem_variantsOf_iff, hlater.mem_variants]
      constructor
      · intro h
        rcases h with ⟨hd, hk⟩ | ⟨i, r', hr', hd, hk⟩
        · exact ⟨0, r, rfl, hd, hk⟩
        · exact ⟨i + 1, r', hr', by omega, hk⟩
      · intro h
        obtain ⟨i, r', hr', hd, hk⟩ := h
        cases i with
        | zero =>
          cases hr'
          exact Or.inl ⟨hd, hk⟩
        | succ i => exact Or.inr ⟨i, r', hr', by omega, hk⟩
    · intro q ranked
      have hafter : ∀ v ∈ later.variants, decl < v.decl := by
        intro v hv
        obtain ⟨i, r', -, hd, -⟩ := (hlater.mem_variants v).mp hv
        omega
      rw [hlater.mem_rulesAt, mem_rulesAt_addVariants_iff decl, or_assoc,
        isVariant_cons_iff hafter]

/-- The declarations of variants are there. -/
theorem Numbering.Lists.exists_decl (hn : n.Lists 0 id ranks rules) :
    ∀ v ∈ n.variants, ∃ r, rules[v.decl]? = some r := by
  intro v hv
  obtain ⟨i, r, hr, hi, -⟩ := (hn.mem_variants v).mp hv
  rw [Nat.zero_add] at hi
  exact ⟨r, by rw [hi]; exact hr⟩

end GrammarKit.Compile
