import GrammarKit.Proofs.Compile.Variant
import GrammarKit.Proofs.Rank

/-!
# Numbers given once

Numbering takes the ids of variants from a counter, so the index lists each id once
and every kind that it knows has a rule (`Fresh`, `numberFrom_fresh`). An index that
starts empty lists variants only: the rules it has for a kind are variants of the
declarations that produce the kind (`Lists.exists_produces`).
-/
namespace GrammarKit

/-- An index that lists every rule once, all of them with ids below the next one, and
has a rule for every kind. -/
structure RankIndex.Fresh (next : RuleId) (x : RankIndex) : Prop where
  nodup : x.ids.Nodup
  lt : ∀ q ∈ x.ids, q < next
  peopled : x.Peopled

theorem RankIndex.fresh_empty (next : RuleId) : Fresh next .empty :=
  ⟨List.nodup_nil, by simp [ids, empty], peopled_empty⟩

/-- New ids go on from the next one. -/
theorem RankIndex.Fresh.add {x : RankIndex} {next : RuleId} (hx : x.Fresh next) (r : RankedType)
    {count : Nat} (hpos : 0 < count) :
    (x.add r (List.range' next count)).Fresh (next + count) := by
  have hperm := x.ids_add_perm r (List.range' next count)
  have hrange : ∀ q ∈ List.range' next count, next ≤ q ∧ q < next + count :=
    fun q hq => List.mem_range'_1.mp hq
  refine ⟨hperm.nodup_iff.mpr ?_, fun q hq => ?_, peopled_add hx.peopled r ?_⟩
  · refine List.nodup_append.mpr ⟨hx.nodup, List.nodup_range', fun a ha b hb hab => ?_⟩
    have hold := hx.lt a ha
    have hnew := (hrange b hb).1
    exact Nat.not_le_of_lt hold (hab ▸ hnew)
  · rcases List.mem_append.mp (hperm.mem_iff.mp hq) with hq | hq
    · exact Nat.lt_of_lt_of_le (hx.lt q hq) (Nat.le_add_right _ _)
    · exact (hrange q hq).2
  · rw [Ne, List.range'_eq_nil_iff]
    omega

namespace Compile

/-- Numbering goes on with the next id. -/
theorem numberFrom_fresh {maxOptionals decl : Nat} {id : RuleId} {ranks : RankIndex}
    {rules : List RuleDecl} {n : Numbering} (hranks : ranks.Fresh id)
    (h : (numberFrom maxOptionals decl id ranks rules).outcome = .ok n) :
    n.ranks.Fresh (id + n.variants.length) := by
  induction rules generalizing decl id ranks n with
  | nil =>
    have hn : n = ⟨ranks, []⟩ := by
      unfold numberFrom at h
      exact (Except.ok.inj h).symm
    subst hn
    exact hranks
  | cons r rules ih =>
    obtain ⟨later, hlater, rfl⟩ := numberFrom_cons_ok h
    have hfresh := ih (hranks.add r.ranked (Nat.two_pow_pos _)) hlater
    rw [List.length_append, length_variantsOf, ← Nat.add_assoc]
    exact hfresh

/-- A kind that the index knows is produced by a declaration. -/
theorem Numbering.Lists.exists_produces {id : RuleId} {rules : List RuleDecl} {n : Numbering}
    (hn : n.Lists 0 id .empty rules) (hpeopled : n.ranks.Peopled) {k : Kind} {top : Nat}
    (htop : n.ranks.maxRank? k = some top) : ∃ r ∈ rules, r.produces = k := by
  obtain ⟨rank, q, hq⟩ := hpeopled k top htop
  rcases (hn.mem_rulesAt q ⟨k, rank⟩).mp hq with hq | ⟨j, v, i, r, -, -, hr, -, hranked⟩
  · exact absurd hq List.not_mem_nil
  · exact ⟨r, List.mem_of_getElem? hr, congrArg RankedType.kind hranked⟩

end Compile
end GrammarKit
