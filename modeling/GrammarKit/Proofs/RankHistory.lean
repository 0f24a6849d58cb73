import GrammarKit.Proofs.Rank
import Mathlib.Data.List.Infix
import Mathlib.Data.List.Sort

/-!
# What an index was told

An index is built by registering ranked types and binding rules to them (`Call`). A rule for
a number that no type has faults; a caller that goes on has the index it had before.

`History.of` only writes down what the calls did: the types in the order in which they were
registered first, and the rules in the order in which they were bound. The index keeps two
maps instead, but all that it answers can be read off the history (`Records.answers`):

* the number of a type is its place in the history;
* the highest rank of a kind is the maximum of its registered ranks;
* the rules of a kind are the rules bound at each of its ranks, from the lowest rank up.

For the last one, a query is a loop over all ranks up to the cap, registered or not
(`rulesOfKind?_eq_loop`).
-/
namespace GrammarKit

namespace Assoc

variable {κ α : Type} [DecidableEq κ] {m : Assoc κ α} {key : κ} {f : Option α → α}

theorem alter_eq_self {a : α} (h : m.get? key = some a) (hf : f (some a) = a) :
    m.alter f key = m := by
  induction m with
  | nil => cases h
  | cons e m ih =>
    obtain ⟨k, b⟩ := e
    unfold get? at h
    unfold alter
    by_cases hk : k = key
    · rw [if_pos hk] at h ⊢
      cases h
      rw [hf]
    · rw [if_neg hk] at h ⊢
      rw [ih h]

/-- In a map without repeated keys, a key is found at the place where it stands. -/
theorem index?_eq_some_iff (h : m.Proper) {i : Nat} :
    m.index? key = some i ↔ (m[i]?).map (·.1) = some key := by
  induction m generalizing i with
  | nil => simp [index?]
  | cons e m ih =>
    obtain ⟨hne, hm⟩ := List.nodup_cons.mp h
    obtain ⟨k, a⟩ := e
    unfold index?
    by_cases hk : k = key
    · rw [if_pos hk]
      cases i with
      | zero => simp [hk]
      | succ i =>
        have hnot : (m[i]?).map (·.1) ≠ some key := by
          intro hget
          obtain ⟨e, he, rfl⟩ := Option.map_eq_some_iff.mp hget
          rw [hk] at hne
          exact hne (List.mem_map.mpr ⟨e, List.mem_of_getElem? he, rfl⟩)
        simp [hnot]
    · rw [if_neg hk]
      cases i with
      | zero => simp [hk]
      | succ i => simp [← ih hm]

/-- Looking up in a map whose values are computed from the keys. -/
theorem get?_map (keys : List κ) (f : κ → α) (key : κ) :
    get? (keys.map fun k => (k, f k)) key = if key ∈ keys then some (f key) else none := by
  induction keys with
  | nil => rfl
  | cons k keys ih =>
    rw [List.map_cons, get?, ih]
    by_cases hk : k = key
    · simp [hk]
    · simp [hk, Ne.symm hk]

end Assoc

namespace RankIndex

/-! ## A query as a loop -/

/-- Two ascending lists of ranks give the same rules if one has the other's ranks, and no
rules at those that it has besides. -/
theorem flatMap_eq_of_ascending {β : Type} {ranks ranks' : List Nat} {f : Nat → List β}
    (h : ranks.Pairwise (· < ·)) (h' : ranks'.Pairwise (· < ·)) (hsub : ∀ r ∈ ranks, r ∈ ranks')
    (hrest : ∀ r ∈ ranks', r ∉ ranks → f r = []) : ranks.flatMap f = ranks'.flatMap f := by
  have hfilter : ranks = ranks'.filter (· ∈ ranks) := by
    refine h.eq_of_mem_iff (h'.filter _) fun r => ?_
    rw [List.mem_filter, decide_eq_true_eq]
    exact ⟨fun hr => ⟨hsub r hr, hr⟩, fun hr => hr.2⟩
  have hdrop : ∀ l : List Nat, (∀ r ∈ l, r ∉ ranks → f r = []) →
      (l.filter (· ∈ ranks)).flatMap f = l.flatMap f := by
    intro l hl
    induction l with
    | nil => rfl
    | cons r l ih =>
      obtain ⟨hr, hl⟩ := List.forall_mem_cons.mp hl
      by_cases hmem : r ∈ ranks
      · rw [List.filter_cons_of_pos (by simpa using hmem), List.flatMap_cons, List.flatMap_cons,
          ih hl]
      · rw [List.filter_cons_of_neg (by simpa using hmem), List.flatMap_cons, hr hmem, ih hl,
          List.nil_append]
  conv_lhs => rw [hfilter]
  exact hdrop ranks' hrest

variable {x : RankIndex} {k : Kind}

theorem kind_of_mem_entriesUpTo {cap : Nat} {e : RankedType × List RuleId}
    (h : e ∈ x.entriesUpTo k cap) : e ∈ x.entries ∧ e.1.kind = k ∧ e.1.rank ≤ cap := by
  unfold entriesUpTo at h
  simpa using h

/-- The entries of a kind stand in the order of their ranks, and no two have the same. -/
theorem ascending_entriesUpTo (hx : x.Valid) (k : Kind) (cap : Nat) :
    ((x.entriesUpTo k cap).map fun e => e.1.rank).Pairwise (· < ·) := by
  have hle : ((x.entriesUpTo k cap).map fun e => e.1.rank).Pairwise (· ≤ ·) := by
    have hsorted : (x.entriesUpTo k cap).Pairwise fun a b =>
        decide (a.1.rank ≤ b.1.rank) = true :=
      List.pairwise_mergeSort
        (fun a b c hab hbc => by simp only [decide_eq_true_eq] at *; omega)
        (fun a b => by simp only [Bool.or_eq_true, decide_eq_true_eq]; omega) _
    exact List.pairwise_map.mpr (hsorted.imp fun h => of_decide_eq_true h)
  have hnodup : ((x.entriesUpTo k cap).map fun e => e.1.rank).Nodup := by
    have hproper : ((x.entriesUpTo k cap).map (·.1)).Nodup :=
      ((List.mergeSort_perm _ _).map _).nodup_iff.mpr (hx.proper.sublist (List.filter_sublist.map _))
    rw [show (fun e : RankedType × List RuleId => e.1.rank) = RankedType.rank ∘ (·.1) from rfl,
      ← List.map_map]
    refine hproper.map_on fun r hr r' hr' heq => ?_
    obtain ⟨e, he, rfl⟩ := List.mem_map.mp hr
    obtain ⟨e', he', rfl⟩ := List.mem_map.mp hr'
    have hkind := (kind_of_mem_entriesUpTo he).2.1.trans (kind_of_mem_entriesUpTo he').2.1.symm
    cases h : e.1
    cases h' : e'.1
    simp_all
  exact hle.imp₂ (fun _ _ hle hne => Nat.lt_of_le_of_ne hle hne) hnodup

/-- **Queries.** The rules of a kind are what a loop over all ranks up to the cap collects. -/
theorem rulesOfKind?_eq_loop (hx : x.Valid) (k : Kind) (cap : Option Nat) :
    x.rulesOfKind? k cap = (x.maxRank? k).map fun top =>
      (List.range (cap.elim top (·.min top) + 1)).flatMap fun rank => x.rulesAt ⟨k, rank⟩ := by
  unfold rulesOfKind?
  congr 1
  funext top
  generalize cap.elim top (·.min top) = cap
  have hrules : (x.entriesUpTo k cap).flatMap (·.2) =
      ((x.entriesUpTo k cap).map fun e => e.1.rank).flatMap fun rank => x.rulesAt ⟨k, rank⟩ := by
    rw [List.flatMap_map]
    refine List.flatMap_congr fun e he => ?_
    obtain ⟨hmem, rfl, -⟩ := kind_of_mem_entriesUpTo he
    rw [rulesAt, (Assoc.mem_iff_get? hx.proper).mp hmem, Option.getD_some]
  rw [hrules]
  refine flatMap_eq_of_ascending (ascending_entriesUpTo hx k cap) List.pairwise_lt_range ?_ ?_
  · intro rank hrank
    obtain ⟨e, he, rfl⟩ := List.mem_map.mp hrank
    have hle := (kind_of_mem_entriesUpTo he).2.2
    exact List.mem_range.mpr (by omega)
  · intro rank hrank hnone
    have hle := List.mem_range.mp hrank
    rw [rulesAt]
    cases hget : x.entries.get? ⟨k, rank⟩ with
    | none => rfl
    | some rules =>
      have hmem := (Assoc.mem_iff_get? hx.proper).mpr hget
      have hentry : (⟨k, rank⟩, rules) ∈ x.entriesUpTo k cap := by
        unfold entriesUpTo
        simp only [List.mem_mergeSort, List.mem_filter, Bool.and_eq_true, decide_eq_true_eq]
        exact ⟨hmem, trivial, by omega⟩
      exact absurd (List.mem_map.mpr ⟨_, hentry, rfl⟩) hnone

/-- A lower cap cuts the answer short. -/
theorem rulesOfKind?_mono (hx : x.Valid) {c c' : Nat} (hle : c ≤ c') {rules' : List RuleId}
    (h : x.rulesOfKind? k (some c') = some rules') :
    ∃ rules, x.rulesOfKind? k (some c) = some rules ∧ rules <+: rules' := by
  rw [rulesOfKind?_eq_loop hx] at h ⊢
  obtain ⟨top, htop, rfl⟩ := Option.map_eq_some_iff.mp h
  refine ⟨_, by rw [htop]; rfl, List.IsPrefix.flatMap ?_ _⟩
  have htake : List.range (c.min top + 1) = (List.range (c'.min top + 1)).take (c.min top + 1) := by
    rw [List.take_range]
    congr 1
    have : c.min top ≤ c'.min top := by
      simp only [Nat.min_def]
      split <;> split <;> omega
    omega
  show List.range (c.min top + 1) <+: List.range (c'.min top + 1)
  rw [htake]
  exact List.take_prefix _ _

/-- A cap that no rank exceeds is none. -/
theorem rulesOfKind?_of_le {top c : Nat} (htop : x.maxRank? k = some top) (hle : top ≤ c) :
    x.rulesOfKind? k (some c) = x.rulesOfKind? k none := by
  have hmin : c.min top = top := Nat.min_eq_right hle
  simp only [rulesOfKind?, htop, Option.map_some, Option.elim_some, Option.elim_none, hmin]

/-! ## Calls -/

/-- A call that changes an index. -/
inductive Call where
  | register (r : RankedType)
  | pushRule (id : Nat) (rule : RuleId)
  deriving DecidableEq, Repr

/-- The index after a call. If the call faults, nothing has changed. -/
def perform (x : RankIndex) : Call → RankIndex
  | .register r => x.register r
  | .pushRule id rule =>
    match x.pushRule id rule with
    | .ok y => y
    | .error _ => x

/-- The index after some calls. -/
def run (x : RankIndex) (calls : List Call) : RankIndex := calls.foldl perform x

theorem run_append (x : RankIndex) (calls calls' : List Call) :
    x.run (calls ++ calls') = (x.run calls).run calls' :=
  List.foldl_append

/-- Adding rules is registering their type and binding them to it. -/
theorem add_eq_run (x : RankIndex) (r : RankedType) (rules : List RuleId) :
    x.add r rules = x.run (.register r :: rules.map (.pushRule (x.entries.place r))) := by
  have hbind : ∀ before, x.add r (before ++ rules) =
      (x.add r before).run (rules.map (.pushRule (x.entries.place r))) := by
    induction rules with
    | nil => simp [run]
    | cons rule rules ih =>
      intro before
      have hpush : (x.add r before).perform (.pushRule (x.entries.place r) rule) =
          x.add r (before ++ [rule]) := by
        rw [perform, pushRule_add]
      rw [List.append_cons, ih (before ++ [rule]), ← hpush]
      rfl
  exact hbind []

/-! ## Histories -/

/-- What calls did. -/
structure History where
  /-- The ranked types, in the order in which they were registered first. -/
  types : List RankedType
  /-- The rules with the types that they were bound to, in the order of the calls. -/
  bound : List (RankedType × RuleId)
  deriving DecidableEq, Repr

namespace History

def empty : History := ⟨[], []⟩

variable (h : History)

/-- A type is written down once; a rule only if the number that it is bound to was given to
a type before. -/
def after : Call → History
  | .register r => if r ∈ h.types then h else { h with types := h.types ++ [r] }
  | .pushRule id rule =>
    match h.types[id]? with
    | some r => { h with bound := h.bound ++ [(r, rule)] }
    | none => h

/-- The history of some calls. -/
def of (calls : List Call) : History := calls.foldl after empty

/-- The rules that were bound to a type. -/
def rulesOf (r : RankedType) : List RuleId := (h.bound.filter (·.1 = r)).map (·.2)

/-- The ranks at which a kind was registered. -/
def ranksOf (k : Kind) : List Nat := (h.types.filter (·.kind = k)).map (·.rank)

/-- The ranks at which a kind was registered and that a cap allows, from the lowest one up. -/
def ranksUpTo (k : Kind) (cap : Option Nat) : List Nat :=
  ((h.ranksOf k).filter fun rank => ∀ c ∈ cap, rank ≤ c).mergeSort (· ≤ ·)

variable {h}

theorem of_concat (calls : List Call) (c : Call) : of (calls ++ [c]) = (of calls).after c := by
  rw [of, List.foldl_append]
  rfl

theorem mem_ranksOf {rank : Nat} : rank ∈ h.ranksOf k ↔ ⟨k, rank⟩ ∈ h.types := by
  simp only [ranksOf, List.mem_map, List.mem_filter, decide_eq_true_eq]
  constructor
  · rintro ⟨r, ⟨hr, rfl⟩, rfl⟩
    exact hr
  · intro hr
    exact ⟨_, ⟨hr, rfl⟩, rfl⟩

theorem mem_ranksUpTo {cap : Option Nat} {rank : Nat} :
    rank ∈ h.ranksUpTo k cap ↔ ⟨k, rank⟩ ∈ h.types ∧ ∀ c ∈ cap, rank ≤ c := by
  rw [ranksUpTo, List.mem_mergeSort, List.mem_filter, mem_ranksOf, decide_eq_true_eq]

/-- The types of a history are those that some call registers. -/
theorem mem_types_of {calls : List Call} {r : RankedType} :
    r ∈ (of calls).types ↔ .register r ∈ calls := by
  induction calls using List.reverseRecOn with
  | nil => simp [of, empty]
  | append_singleton calls c ih =>
    rw [of_concat, List.mem_append, List.mem_singleton, ← ih]
    cases c with
    | register q =>
      simp only [after, Call.register.injEq]
      by_cases hq : q ∈ (of calls).types
      · rw [if_pos hq]
        exact ⟨Or.inl, fun h => h.elim id fun he => he ▸ hq⟩
      · rw [if_neg hq, List.mem_append, List.mem_singleton]
    | pushRule id rule =>
      simp only [after, reduceCtorEq, or_false]
      split <;> rfl

end History

/-! ## The index of a history -/

/-- The two maps of an index hold what is in a history. -/
structure Records (x : RankIndex) (h : History) : Prop where
  nodup : h.types.Nodup
  mem_types : ∀ b ∈ h.bound, b.1 ∈ h.types
  entries_eq : x.entries = h.types.map fun r => (r, h.rulesOf r)
  maxRank?_eq : ∀ k, x.maxRank? k = (h.ranksOf k).max?

/-- What an index answers, read off a history. -/
structure Answers (x : RankIndex) (h : History) : Prop where
  /-- Numbers are dense and go by the order of the first registrations. -/
  size_eq : x.size = h.types.length
  type?_eq : ∀ i, x.type? i = h.types[i]?
  id?_eq_some_iff : ∀ r i, x.id? r = some i ↔ x.type? i = some r
  maxRank?_eq : ∀ k, x.maxRank? k = (h.ranksOf k).max?
  /-- There is no answer exactly for kinds that were not registered. -/
  rulesOfKind?_eq_none_iff : ∀ k cap, x.rulesOfKind? k cap = none ↔ h.ranksOf k = []
  rulesOfKind?_eq : ∀ k cap, h.ranksOf k ≠ [] → x.rulesOfKind? k cap =
    some ((h.ranksUpTo k cap).flatMap fun rank => h.rulesOf ⟨k, rank⟩)
  /-- A lower cap gives the beginning of the answer. -/
  rulesOfKind?_mono : ∀ k c c' rules', c ≤ c' → x.rulesOfKind? k (some c') = some rules' →
    ∃ rules, x.rulesOfKind? k (some c) = some rules ∧ rules <+: rules'
  rulesOfKind?_of_le : ∀ k top c, x.maxRank? k = some top → top ≤ c →
    x.rulesOfKind? k (some c) = x.rulesOfKind? k none

theorem max?_concat (ranks : List Nat) (rank : Nat) :
    (ranks ++ [rank]).max? = some ((ranks.max?.getD rank).max rank) := by
  rw [List.max?_eq_some_iff]
  cases hmax : ranks.max? with
  | none =>
    rw [List.max?_eq_none_iff.mp hmax]
    simp
  | some top =>
    obtain ⟨hmem, hle⟩ := List.max?_eq_some_iff.mp hmax
    show max top rank ∈ _ ∧ ∀ r ∈ _, r ≤ max top rank
    constructor
    · rcases Nat.le_total top rank with h | h
      · rw [Nat.max_eq_right h]
        exact List.mem_append_right _ (List.mem_singleton_self _)
      · rw [Nat.max_eq_left h]
        exact List.mem_append_left _ hmem
    · intro r hr
      rcases List.mem_append.mp hr with hr | hr
      · exact Nat.le_trans (hle r hr) (Nat.le_max_left _ _)
      · rw [List.mem_singleton.mp hr]
        exact Nat.le_max_right _ _

namespace Records

variable {h : History}

theorem of_empty : Records .empty .empty :=
  ⟨List.nodup_nil, nofun, rfl, fun _ => rfl⟩

theorem get?_entries (hx : x.Records h) (r : RankedType) :
    x.entries.get? r = if r ∈ h.types then some (h.rulesOf r) else none := by
  rw [hx.entries_eq, Assoc.get?_map]

theorem rulesOf_eq_nil (hx : x.Records h) {r : RankedType} (hr : r ∉ h.types) :
    h.rulesOf r = [] := by
  rw [History.rulesOf, List.map_eq_nil_iff, List.filter_eq_nil_iff]
  intro b hb heq
  exact hr (of_decide_eq_true heq ▸ hx.mem_types b hb)

theorem rulesAt_eq (hx : x.Records h) (r : RankedType) : x.rulesAt r = h.rulesOf r := by
  rw [rulesAt, hx.get?_entries]
  by_cases hr : r ∈ h.types
  · rw [if_pos hr, Option.getD_some]
  · rw [if_neg hr, Option.getD_none, hx.rulesOf_eq_nil hr]

theorem valid (hx : x.Records h) : x.Valid where
  proper := by
    rw [Assoc.Proper, hx.entries_eq, List.map_map]
    simpa [Function.comp_def] using hx.nodup
  ranks_le := by
    intro r rules hget
    rw [hx.get?_entries] at hget
    have hr : r ∈ h.types := by
      by_contra hr
      rw [if_neg hr] at hget
      cases hget
    have hmem : r.rank ∈ h.ranksOf r.kind := History.mem_ranksOf.mpr hr
    rw [hx.maxRank?_eq]
    cases hmax : (h.ranksOf r.kind).max? with
    | none =>
      rw [List.max?_eq_none_iff.mp hmax] at hmem
      cases hmem
    | some top => exact ⟨top, rfl, (List.max?_eq_some_iff.mp hmax).2 _ hmem⟩

/-- Registering a type that is there already changes nothing. -/
theorem register_of_mem (hx : x.Records h) {r : RankedType} (hr : r ∈ h.types) :
    x.register r = x := by
  have hget : x.entries.get? r = some (h.rulesOf r) := by rw [hx.get?_entries, if_pos hr]
  obtain ⟨top, htop, hle⟩ := hx.valid.ranks_le r _ hget
  rw [register, add, Assoc.alter_eq_self hget (by simp),
    Assoc.alter_eq_self htop (Nat.max_eq_left hle)]

theorem ranksOf_concat (r : RankedType) (k : Kind) :
    History.ranksOf { h with types := h.types ++ [r] } k =
      h.ranksOf k ++ if r.kind = k then [r.rank] else [] := by
  by_cases hk : r.kind = k <;> simp [History.ranksOf, hk]

theorem register_of_notMem (hx : x.Records h) {r : RankedType} (hr : r ∉ h.types) :
    (x.register r).Records { h with types := h.types ++ [r] } where
  nodup := List.nodup_append.mpr ⟨hx.nodup, List.nodup_singleton r, fun a ha b hb hab => by
    rw [List.mem_singleton.mp hb] at hab
    exact hr (hab ▸ ha)⟩
  mem_types := fun b hb => List.mem_append_left _ (hx.mem_types b hb)
  entries_eq := by
    have hkey : r ∉ x.entries.map (·.1) := by
      rw [hx.entries_eq, List.map_map]
      simpa [Function.comp_def] using hr
    have hnone := hx.rulesOf_eq_nil hr
    show x.entries.alter _ r = (h.types ++ [r]).map fun q => (q, h.rulesOf q)
    rw [Assoc.alter_eq_concat hkey, hx.entries_eq, List.map_append, List.map_singleton, hnone]
    rfl
  maxRank?_eq := by
    intro k
    rw [ranksOf_concat]
    simp only [register, add, maxRank?, Assoc.get?_alter]
    have hold := hx.maxRank?_eq k
    rw [maxRank?] at hold
    by_cases hk : r.kind = k
    · subst hk
      rw [if_pos rfl, if_pos rfl, max?_concat, hold]
    · rw [if_neg (Ne.symm hk), if_neg hk, List.append_nil, hold]

theorem rulesOf_concat (r q : RankedType) (rule : RuleId) :
    History.rulesOf { h with bound := h.bound ++ [(r, rule)] } q =
      if q = r then h.rulesOf q ++ [rule] else h.rulesOf q := by
  by_cases hq : q = r
  · simp [History.rulesOf, hq]
  · simp [History.rulesOf, hq, Ne.symm hq]

theorem pushRule_of_getElem? (hx : x.Records h) {id : Nat} {r : RankedType}
    (hr : h.types[id]? = some r) (rule : RuleId) :
    ∃ y, x.pushRule id rule = .ok y ∧ y.Records { h with bound := h.bound ++ [(r, rule)] } := by
  have hget : x.entries[id]? = some (r, h.rulesOf r) := by
    rw [hx.entries_eq, List.getElem?_map, hr]
    rfl
  refine ⟨{ x with entries := x.entries.set id (r, h.rulesOf r ++ [rule]) }, ?_, hx.nodup, ?_, ?_,
    hx.maxRank?_eq⟩
  · rw [pushRule, hget]
  · intro b hb
    rcases List.mem_append.mp hb with hb | hb
    · exact hx.mem_types b hb
    · rw [List.mem_singleton.mp hb]
      exact List.mem_of_getElem? hr
  · -- only the place of the type changes, and no other place has this type
    refine List.ext_getElem? fun i => ?_
    obtain ⟨hlt, hid⟩ := List.getElem?_eq_some_iff.mp hr
    simp only [hx.entries_eq, List.getElem?_set, List.getElem?_map, List.length_map,
      rulesOf_concat]
    by_cases hi : id = i
    · subst hi
      rw [if_pos rfl, if_pos hlt, hr, Option.map_some, if_pos rfl]
    · rw [if_neg hi]
      cases hq : h.types[i]? with
      | none => rfl
      | some q =>
        have hne : q ≠ r := by
          rintro rfl
          obtain ⟨hlt', hi'⟩ := List.getElem?_eq_some_iff.mp hq
          exact hi ((List.Nodup.getElem_inj_iff hx.nodup).mp (hid.trans hi'.symm))
        rw [Option.map_some, Option.map_some, if_neg hne]

/-- One call. -/
theorem perform (hx : x.Records h) (c : Call) : (x.perform c).Records (h.after c) := by
  cases c with
  | register r =>
    rw [RankIndex.perform, History.after]
    by_cases hr : r ∈ h.types
    · rw [if_pos hr, hx.register_of_mem hr]
      exact hx
    · rw [if_neg hr]
      exact hx.register_of_notMem hr
  | pushRule id rule =>
    rw [RankIndex.perform, History.after]
    cases hr : h.types[id]? with
    | some r =>
      obtain ⟨y, hy, hrecords⟩ := hx.pushRule_of_getElem? hr rule
      rw [hy]
      exact hrecords
    | none =>
      have hget : x.entries[id]? = none := by rw [hx.entries_eq, List.getElem?_map, hr]; rfl
      rw [pushRule, hget]
      exact hx

/-- All calls. -/
theorem of_run (calls : List Call) : (run .empty calls).Records (.of calls) := by
  induction calls using List.reverseRecOn with
  | nil => exact of_empty
  | append_singleton calls c ih =>
    rw [run_append, History.of_concat]
    exact ih.perform c

theorem rulesOfKind?_eq_none_iff (hx : x.Records h) (k : Kind) (cap : Option Nat) :
    x.rulesOfKind? k cap = none ↔ h.ranksOf k = [] := by
  rw [rulesOfKind?, Option.map_eq_none_iff, hx.maxRank?_eq, List.max?_eq_none_iff]

theorem ascending_ranksUpTo (hx : x.Records h) (k : Kind) (cap : Option Nat) :
    (h.ranksUpTo k cap).Pairwise (· < ·) := by
  have hnodup : (h.ranksUpTo k cap).Nodup := by
    refine (List.mergeSort_perm _ _).nodup_iff.mpr (List.Nodup.filter _ ?_)
    refine (hx.nodup.filter _).map_on fun r hr r' hr' heq => ?_
    have hkind := of_decide_eq_true (List.mem_filter.mp hr).2
    have hkind' := of_decide_eq_true (List.mem_filter.mp hr').2
    cases r
    cases r'
    simp_all
  have hle : (h.ranksUpTo k cap).Pairwise (· ≤ ·) := List.sortedLE_mergeSort.pairwise
  exact hle.imp₂ (fun _ _ hle hne => Nat.lt_of_le_of_ne hle hne) hnodup

theorem rulesOfKind?_eq (hx : x.Records h) {k : Kind} (cap : Option Nat) (hk : h.ranksOf k ≠ []) :
    x.rulesOfKind? k cap =
      some ((h.ranksUpTo k cap).flatMap fun rank => h.rulesOf ⟨k, rank⟩) := by
  rw [rulesOfKind?_eq_loop hx.valid, hx.maxRank?_eq]
  simp only [hx.rulesAt_eq]
  cases hmax : (h.ranksOf k).max? with
  | none => exact absurd (List.max?_eq_none_iff.mp hmax) hk
  | some top =>
    obtain ⟨-, hle⟩ := List.max?_eq_some_iff.mp hmax
    have hcap : ∀ rank, rank ≤ top →
        (rank < cap.elim top (·.min top) + 1 ↔ ∀ c ∈ cap, rank ≤ c) := by
      intro rank hrank
      cases cap with
      | none => simp [Nat.lt_succ_of_le hrank]
      | some c =>
        have hmin : rank ≤ c.min top ↔ rank ≤ c ∧ rank ≤ top := Nat.le_min
        simp only [Option.elim_some, Nat.lt_succ_iff, hmin, Option.mem_some_iff, forall_eq', hrank,
          and_true]
    rw [Option.map_some]
    refine congrArg some (flatMap_eq_of_ascending (hx.ascending_ranksUpTo k cap)
      List.pairwise_lt_range ?_ ?_).symm
    · intro rank hrank
      obtain ⟨hmem, hall⟩ := History.mem_ranksUpTo.mp hrank
      exact List.mem_range.mpr ((hcap rank (hle rank (History.mem_ranksOf.mpr hmem))).mpr hall)
    · -- a rank that was not registered has no rules
      intro rank hrank hnot
      refine hx.rulesOf_eq_nil fun hmem => hnot (History.mem_ranksUpTo.mpr ⟨hmem, ?_⟩)
      exact (hcap rank (hle rank (History.mem_ranksOf.mpr hmem))).mp (List.mem_range.mp hrank)

/-- **Answers.** An index with what is in a history answers by the history. -/
theorem answers (hx : x.Records h) : x.Answers h where
  size_eq := by rw [size, hx.entries_eq, List.length_map]
  type?_eq := by
    intro i
    rw [type?, hx.entries_eq, List.getElem?_map, Option.map_map]
    simp [Function.comp_def]
  id?_eq_some_iff := fun r i => Assoc.index?_eq_some_iff hx.valid.proper
  maxRank?_eq := hx.maxRank?_eq
  rulesOfKind?_eq_none_iff := hx.rulesOfKind?_eq_none_iff
  rulesOfKind?_eq := fun _ cap hk => hx.rulesOfKind?_eq cap hk
  rulesOfKind?_mono := fun _ _ _ _ hle h => RankIndex.rulesOfKind?_mono hx.valid hle h
  rulesOfKind?_of_le := fun _ _ _ htop hle => RankIndex.rulesOfKind?_of_le htop hle

end Records
end RankIndex
end GrammarKit
