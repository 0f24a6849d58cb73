import GrammarKit.Fault
import Mathlib.Data.List.Forall2

/-!
# When checked operations succeed

`Succeeds x` says that `x` has a value. A chain succeeds if its parts do, a pass
over a list if it does so at every element, and then the values are those of the
elements (`mapM_eq_ok_iff`). It fails exactly at the first element that fails
(`mapM_eq_error_iff`).
-/
namespace GrammarKit

variable {ε α β : Type}

/-- The operation has a value. -/
def Succeeds (x : Except ε α) : Prop := ∃ a, x = .ok a

@[simp] theorem succeeds_ok (a : α) : Succeeds (.ok a : Except ε α) := ⟨a, rfl⟩

@[simp] theorem not_succeeds_error (e : ε) : ¬ Succeeds (.error e : Except ε α) := nofun

@[simp] theorem ok_bind (a : α) (f : α → Except ε β) : ((.ok a : Except ε α) >>= f) = f a := rfl

theorem succeeds_bind_iff {x : Except ε α} {f : α → Except ε β} :
    Succeeds (x >>= f) ↔ ∃ a, x = .ok a ∧ Succeeds (f a) := by
  constructor
  · rintro ⟨b, hb⟩
    obtain ⟨a, ha, hfa⟩ := bind_eq_ok_iff.mp hb
    exact ⟨a, ha, b, hfa⟩
  · rintro ⟨a, ha, b, hb⟩
    exact ⟨b, bind_eq_ok_iff.mpr ⟨a, ha, hb⟩⟩

/-- What follows never fails. -/
theorem succeeds_bind_of_forall {x : Except ε α} {f : α → Except ε β}
    (hf : ∀ a, Succeeds (f a)) : Succeeds (x >>= f) ↔ Succeeds x := by
  rw [succeeds_bind_iff]
  exact exists_congr fun a => and_iff_left (hf a)

@[simp] theorem succeeds_map_iff {x : Except ε α} {f : α → β} :
    Succeeds (x.map f) ↔ Succeeds x := by
  cases x <;> simp [Except.map]

@[simp] theorem succeeds_require_iff {f : Fault} {x : Option α} :
    Succeeds (require f x) ↔ x.isSome := by
  cases x <;> simp [require]

theorem require_eq_ok_iff {f : Fault} {x : Option α} {a : α} :
    require f x = .ok a ↔ x = some a := by
  cases x <;> simp [require]

/-- An element that is there is found. -/
theorem require_getElem? {as : Array α} {i : Nat} (h : i < as.size) (default : α) :
    require .outOfRange as[i]? = .ok (as.getD i default) := by
  rw [Array.getD_eq_getD_getElem?, Array.getElem?_eq_getElem h]
  rfl

/-! ## Errors beside faults -/

namespace Failure

@[simp] theorem ofError_ok (a : α) : ofError (.ok a : Except ε α) = .ok a := rfl

@[simp] theorem ofError_error (e : ε) :
    ofError (.error e : Except ε α) = .error (.error e) := rfl

@[simp] theorem ofFault_ok (a : α) : (ofFault (.ok a) : Except (Failure ε) α) = .ok a := rfl

theorem ofError_bind (x : Except ε α) (f : α → Except ε β) :
    ofError (x.bind f) = ofError x >>= fun a => ofError (f a) := by
  cases x <;> rfl

theorem ofError_map (x : Except ε α) (f : α → β) :
    ofError (x.map f) = ofError x >>= fun a => .ok (f a) := by
  cases x <;> rfl

end Failure

/-! ## Passes over lists -/

variable {g : α → Except ε β} {l : List α}

theorem mapM_eq_ok_iff {r : List β} :
    l.mapM g = .ok r ↔ List.Forall₂ (fun a b => g a = .ok b) l r := by
  induction l generalizing r with
  | nil => simp [pure, Except.pure, eq_comm]
  | cons a l ih =>
    rw [List.mapM_cons, List.forall₂_cons_left_iff, bind_eq_ok_iff]
    simp only [bind_eq_ok_iff, ih]
    constructor
    · rintro ⟨b, hb, bs, hbs, hr⟩
      cases hr
      exact ⟨b, bs, hb, hbs, rfl⟩
    · rintro ⟨b, bs, hb, hbs, rfl⟩
      exact ⟨b, hb, bs, hbs, rfl⟩

/-- Where every element has a value, the values are those of a map. -/
theorem mapM_eq_map {f : α → β} (h : ∀ a ∈ l, g a = .ok (f a)) : l.mapM g = .ok (l.map f) :=
  mapM_eq_ok_iff.mpr (List.forall₂_map_right_iff.mpr (List.forall₂_same.mpr h))

/-- Where every element tells whether it passes, some element passes as in a plain search. -/
theorem anyM_eq_any {p : α → Except ε Bool} {f : α → Bool} (h : ∀ a ∈ l, p a = .ok (f a)) :
    l.anyM p = .ok (l.any f) := by
  induction l with
  | nil => rfl
  | cons a l ih =>
    obtain ⟨ha, hl⟩ := List.forall_mem_cons.mp h
    rw [List.anyM, ha, ok_bind, List.any_cons]
    cases f a with
    | true => rfl
    | false => exact ih hl

theorem allM_eq_all {p : α → Except ε Bool} {f : α → Bool} (h : ∀ a ∈ l, p a = .ok (f a)) :
    l.allM p = .ok (l.all f) := by
  induction l with
  | nil => rfl
  | cons a l ih =>
    obtain ⟨ha, hl⟩ := List.forall_mem_cons.mp h
    rw [List.allM, ha, ok_bind, List.all_cons]
    cases f a with
    | true => exact ih hl
    | false => rfl

/-- A pass over a list succeeds exactly if every element does. -/
theorem succeeds_mapM_iff : Succeeds (l.mapM g) ↔ ∀ a ∈ l, Succeeds (g a) := by
  induction l with
  | nil => simp [pure, Except.pure]
  | cons a l ih =>
    rw [List.mapM_cons, succeeds_bind_iff, List.forall_mem_cons, ← ih]
    constructor
    · rintro ⟨b, hb, hrest⟩
      obtain ⟨bs, hbs, -⟩ := succeeds_bind_iff.mp hrest
      exact ⟨⟨b, hb⟩, bs, hbs⟩
    · rintro ⟨⟨b, hb⟩, bs, hbs⟩
      exact ⟨b, hb, succeeds_bind_iff.mpr ⟨bs, hbs, _, rfl⟩⟩

/-- Every value of a pass over a list is that of an element. -/
theorem exists_of_mem_mapM {r : List β} (h : l.mapM g = .ok r) :
    ∀ b ∈ r, ∃ a ∈ l, g a = .ok b := by
  have hall := mapM_eq_ok_iff.mp h
  intro b hb
  obtain ⟨i, hi, rfl⟩ := List.mem_iff_getElem.mp hb
  have hlen : i < l.length := by
    rw [hall.length_eq]
    exact hi
  exact ⟨l[i], List.getElem_mem hlen, hall.get hlen hi⟩

/-- A pass over a list fails exactly at its first element that fails. -/
theorem mapM_eq_error_iff {e : ε} :
    l.mapM g = .error e ↔
      ∃ before a after, l = before ++ a :: after ∧ (∀ b ∈ before, Succeeds (g b)) ∧
        g a = .error e := by
  induction l with
  | nil => simp [pure, Except.pure]
  | cons a l ih =>
    rw [List.mapM_cons]
    cases ha : g a with
    | error e' =>
      constructor
      · intro h
        cases h
        exact ⟨[], a, l, rfl, by simp, ha⟩
      · rintro ⟨before, b, after, hl, hbefore, hb⟩
        cases before with
        | nil =>
          cases hl
          rw [ha] at hb
          cases hb
          rfl
        | cons b' before =>
          cases hl
          obtain ⟨c, hc⟩ := hbefore a (by simp)
          rw [ha] at hc
          cases hc
    | ok c =>
      have hrest : (do let b ← (Except.ok c : Except ε β); let bs ← l.mapM g; pure (b :: bs)) =
          .error e ↔ l.mapM g = .error e := by
        cases l.mapM g <;> simp [bind, Except.bind, pure, Except.pure]
      rw [hrest, ih]
      constructor
      · rintro ⟨before, b, after, rfl, hbefore, hb⟩
        exact ⟨a :: before, b, after, rfl, List.forall_mem_cons.mpr ⟨⟨c, ha⟩, hbefore⟩, hb⟩
      · rintro ⟨before, b, after, hl, hbefore, hb⟩
        cases before with
        | nil =>
          cases hl
          rw [ha] at hb
          cases hb
        | cons b' before =>
          cases hl
          exact ⟨before, b, after, rfl, (List.forall_mem_cons.mp hbefore).2, hb⟩

end GrammarKit
