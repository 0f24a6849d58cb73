import GrammarKit.Declaration
import GrammarKit.Proofs.Kind

/-!
# Declarations that were built

A declaration that starts empty and grows by declaring kinds and rules gives every
rule a kind that has a name (`Built.produces_lt`), and no two kinds one name
(`Built.nodup_names`). Only the kind a rule produces is certain to have one: a
parameter may refer to a kind by a number that nobody declared.
-/
namespace GrammarKit

/-- The kind that a parameter accepts nodes of, and their highest rank. -/
def Shape.kind? {κ : Type} : Shape κ → Option (κ × Option Nat)
  | .terminal _ _ => none
  | .nonTerminal kind maxRank _ => some (kind, maxRank)
  | .list element maxRank _ _ => some (element, maxRank)

namespace KindTable

variable (t : KindTable)

/-- An interned name is one of the table. -/
theorem intern_lt (name : String) : (t.intern name).1 < (t.intern name).2.names.length := by
  unfold intern
  split
  · next hk => exact lt_of_get? hk
  · simp

theorem length_intern_le (name : String) :
    t.names.length ≤ (t.intern name).2.names.length := by
  unfold intern
  split
  · exact Nat.le_refl _
  · simp

section Keeps

variable {P : KindTable → Prop} (hP : ∀ t name, P t → P (t.intern name).2)
include hP

variable {t : KindTable}

theorem refer_keeps (kind : KindRef) (h : P t) : P (t.refer kind).2 := by
  cases kind with
  | named name => exact hP t name h
  | numbered k => exact h

theorem numberShape_keeps (shape : Shape KindRef) (h : P t) : P (t.numberShape shape).2 := by
  cases shape with
  | terminal tokens optional => exact h
  | nonTerminal kind maxRank optional => exact refer_keeps hP kind h
  | list element maxRank min delimiter => exact refer_keeps hP element h

/-- What interning names keeps, numbering parameters keeps. -/
theorem numberParams_keeps (params : List (Param KindRef)) (h : P t) :
    P (t.numberParams params).2 := by
  induction params generalizing t with
  | nil => exact h
  | cons p params ih => exact ih (numberShape_keeps hP p.shape h)

end Keeps

end KindTable

namespace Declaration

/-- The declaration was made by declaring kinds and rules, one after the other. -/
inductive Built : Declaration → Prop where
  | empty : Built .empty
  | withKind {d : Declaration} (name : String) : Built d → Built (d.withKind name).2
  | withRule {d : Declaration} (draft : RuleDraft) : Built d → Built (d.withRule draft).2
  | withAbandoned {d : Declaration} (draft : RuleDraft) : Built d → Built (d.withAbandoned draft)

variable {d : Declaration}

/-- The kind that a draft produces comes first, and the parameters come after it. -/
theorem number_spec (d : Declaration) (draft : RuleDraft) :
    (d.number draft).1.produces < (d.number draft).2.names.length ∧
      d.kinds.names.length ≤ (d.number draft).2.names.length := by
  have hparams : (d.kinds.intern draft.produces).2.names.length ≤
      (d.number draft).2.names.length :=
    KindTable.numberParams_keeps (P := fun t => _ ≤ t.names.length)
      (fun t name h => Nat.le_trans h (t.length_intern_le name)) draft.params (Nat.le_refl _)
  exact ⟨Nat.lt_of_lt_of_le (d.kinds.intern_lt _) hparams,
    Nat.le_trans (d.kinds.length_intern_le _) hparams⟩

/-- What holds of no kinds and what interning keeps, holds of the kinds of every
declaration that was built. -/
theorem Built.kinds_keep {P : KindTable → Prop} (hempty : P .empty)
    (hP : ∀ t name, P t → P (t.intern name).2) (hd : d.Built) : P d.kinds := by
  have hnumber : ∀ (d : Declaration) (draft : RuleDraft), P d.kinds → P (d.number draft).2 :=
    fun d draft h => KindTable.numberParams_keeps hP draft.params (hP _ _ h)
  induction hd with
  | empty => exact hempty
  | @withKind d name _ ih => exact hP d.kinds name ih
  | @withRule d draft _ ih => exact hnumber d draft ih
  | @withAbandoned d draft _ ih => exact hnumber d draft ih

/-- No two kinds of a declaration that was built have one name. -/
theorem Built.nodup_names (hd : d.Built) : d.kinds.names.Nodup :=
  hd.kinds_keep (P := fun t => t.names.Nodup) List.nodup_nil
    fun _ name h => KindTable.nodup_intern name h

/-- Every rule of a declaration that was built produces a kind with a name. -/
theorem Built.produces_lt (hd : d.Built) : ∀ r ∈ d.rules, r.produces < d.kinds.names.length := by
  induction hd with
  | empty => simp [Declaration.empty]
  | @withKind d name _ ih =>
    intro r hr
    exact Nat.lt_of_lt_of_le (ih r hr) (d.kinds.length_intern_le name)
  | @withRule d draft _ ih =>
    obtain ⟨hnew, hle⟩ := d.number_spec draft
    intro r hr
    rcases List.mem_append.mp hr with hr | hr
    · exact Nat.lt_of_lt_of_le (ih r hr) hle
    · rw [List.mem_singleton.mp hr]
      exact hnew
  | @withAbandoned d draft _ ih =>
    intro r hr
    exact Nat.lt_of_lt_of_le (ih r hr) (d.number_spec draft).2

end Declaration
end GrammarKit
