import GrammarKit.Proofs.Compile.Flow
import GrammarKit.Proofs.Fault

/-!
# The least closed family

`spread` serves its queue a number of times that is worked out beforehand.
`Propagation.Runs` serves it until it is empty, however long that takes, and
looks up every place that it comes to. Such a loop can go on for ever, and a
place can be missing.

`spread_least`: if all edges lead from places to places, the loop ends, finds
every place, and gives what `spread` gives. That is the least family of sets
that holds what the places hold at first and loses nothing along an edge, and no
set grows exactly if the sets at first are such a family. Cycles, loops at one
place and repeated edges make no difference.

The queue holds places only (`Queued`), so nothing is missing, and the rounds
that are worked out beforehand leave it empty (`runs_settle`). Every change of
a set is counted (`Counts`), and along edges that have nothing left to carry no
set changes (`settle_idle`).
-/
namespace GrammarKit.Compile

open Relation (ReflTransGen)
open TokenSet (Ascending)

namespace Propagation

/-! ## The loop -/

/-- Adds to the set at a place what it lacks of the set at another. -/
def carry (source : Nat) (f : Flow) (target : Nat) : Except Fault Flow :=
  if target = source then .ok f
  else do
    let s ← require .outOfRange f.sets[source]?
    let t ← require .outOfRange f.sets[target]?
    let added := TokenSet.diff s t
    if added.isEmpty then .ok f
    else
      let f := { f with
        sets := f.sets.setIfInBounds target (TokenSet.insertAll t added)
        updates := f.updates + 1 }
      let waits ← require .outOfRange f.waiting[target]?
      if waits then .ok f
      else .ok { f with
        waiting := f.waiting.setIfInBounds target true
        queue := f.queue.push target }

/-- Carries the set at a place along its edges, one after the other. -/
def serve (edges : Array (List Nat)) (f : Flow) (source : Nat) : Except Fault Flow := do
  let targets ← require .outOfRange edges[source]?
  targets.foldlM (carry source) { f with waiting := f.waiting.setIfInBounds source false }

/-- Serving the queue until it is empty ends with a result: the last state, or a fault. A
loop that goes on for ever has none. -/
inductive Runs (edges : Array (List Nat)) : Flow → Except Fault Flow → Prop where
  | done {f : Flow} : f.queue.pop? = none → Runs edges f (.ok f)
  | fault {f : Flow} {i : Nat} {queue : Queue} {e : Fault} : f.queue.pop? = some (i, queue) →
      serve edges { f with queue } i = .error e → Runs edges f (.error e)
  | round {f g : Flow} {i : Nat} {queue : Queue} {result : Except Fault Flow} :
      f.queue.pop? = some (i, queue) → serve edges { f with queue } i = .ok g →
      Runs edges g result → Runs edges f result

/-- A loop has one result at most. -/
theorem Runs.unique {edges : Array (List Nat)} {f : Flow} {result result' : Except Fault Flow}
    (h : Runs edges f result) (h' : Runs edges f result') : result = result' := by
  induction h with
  | done hpop =>
    cases h' with
    | done => rfl
    | fault hpop' => cases hpop.symm.trans hpop'
    | round hpop' => cases hpop.symm.trans hpop'
  | fault hpop hserve =>
    cases h' with
    | done hpop' => cases hpop.symm.trans hpop'
    | fault hpop' hserve' =>
      cases hpop.symm.trans hpop'
      exact hserve.symm.trans hserve'
    | round hpop' hserve' =>
      cases hpop.symm.trans hpop'
      cases hserve.symm.trans hserve'
  | round hpop hserve _ ih =>
    cases h' with
    | done hpop' => cases hpop.symm.trans hpop'
    | fault hpop' hserve' =>
      cases hpop.symm.trans hpop'
      cases hserve.symm.trans hserve'
    | round hpop' hserve' h' =>
      cases hpop.symm.trans hpop'
      cases hserve.symm.trans hserve'
      exact ih h'

/-- The sets that come out, and how often one grew. -/
def Spreads (sets : Array TokenSet) (edges : Array (List Nat))
    (result : Except Fault (Array TokenSet × Nat)) : Prop :=
  ∃ f, Runs edges (.start sets) f ∧ result = f.map fun f => (f.sets, f.updates)

/-! ## Every place is found -/

/-- Only places wait. -/
def Queued (n : Nat) (f : Flow) : Prop := ∀ i ∈ f.queue.toList, i < n

section Found

variable {edges : Array (List Nat)} {seed : Array TokenSet} {f : Flow} {source target : Nat}

/-- Between places a set is carried as `Flow.along` does it. -/
theorem carry_eq (h : Flow.Valid edges seed f) (hsource : source < seed.size)
    (htarget : target < seed.size) : carry source f target = .ok (Flow.along source f target) := by
  have hset : ∀ i < seed.size, require .outOfRange f.sets[i]? = .ok (f.set i) := fun i hi =>
    require_getElem? (h.size_sets.symm ▸ hi) []
  have hwaits := require_getElem? (h.size_waiting.symm ▸ htarget : target < f.waiting.size) true
  unfold carry Flow.along
  split
  · rfl
  rw [hset source hsource, hset target htarget, ok_bind, ok_bind]
  dsimp only
  rw [hwaits, TokenSet.insertAll_diff (h.ascending source) (h.ascending target)]
  split
  · rfl
  rw [ok_bind]
  split <;> rfl

theorem queued_along {n : Nat} (hq : Queued n f) (htarget : target < n) :
    Queued n (Flow.along source f target) := by
  intro i hi
  rcases Flow.along_cases source f target with ⟨heq, -⟩ | ⟨-, -, -, -, ⟨-, -, hqueue⟩ | ⟨-, hqueue⟩⟩
  · rw [heq] at hi
    exact hq i hi
  · rw [hqueue] at hi
    exact hq i hi
  · rw [hqueue, Queue.toList_push] at hi
    rcases List.mem_append.mp hi with hi | hi
    · exact hq i hi
    · rw [List.mem_singleton.mp hi]
      exact htarget

/-- Serving a place finds all places that its edges lead to. -/
theorem foldlM_carry (hsource : source < seed.size) (targets : List Nat)
    (htargets : ∀ j ∈ targets, Edge edges source j ∧ j < seed.size) {f : Flow}
    (h : Flow.Valid edges seed f) :
    targets.foldlM (carry source) f = .ok (targets.foldl (Flow.along source) f) := by
  induction targets generalizing f with
  | nil => rfl
  | cons target targets ih =>
    obtain ⟨⟨hedge, htarget⟩, htargets⟩ := List.forall_mem_cons.mp htargets
    rw [List.foldlM_cons, carry_eq h hsource htarget, ok_bind, List.foldl_cons]
    exact ih htargets (Flow.along_valid h hedge htarget)

theorem queued_foldl {n : Nat} {targets : List Nat} (htargets : ∀ j ∈ targets, j < n) {f : Flow}
    (hq : Queued n f) : Queued n (targets.foldl (Flow.along source) f) := by
  induction targets generalizing f with
  | nil => exact hq
  | cons target targets ih =>
    obtain ⟨htarget, htargets⟩ := List.forall_mem_cons.mp htargets
    exact ih htargets (queued_along hq htarget)

end Found

/-! ## The loop ends -/

section Ends

variable {edges : Array (List Nat)} {seed : Array TokenSet} (hsize : edges.size = seed.size)
  (hedges : ∀ i j, Edge edges i j → j < seed.size)
include hsize hedges

theorem serve_eq {f : Flow} (h : Flow.Valid edges seed f) {source : Nat} {queue : Queue}
    (hpop : f.queue.pop? = some (source, queue)) (hsource : source < seed.size) :
    serve edges { f with queue } source = .ok (Flow.visit edges { f with queue } source) := by
  unfold serve Flow.visit
  rw [require_getElem? (hsize.symm ▸ hsource) []]
  exact foldlM_carry hsource _ (fun j hj => ⟨hj, hedges source j hj⟩) (Flow.valid_pop h hpop)

/-- With as many rounds as `Flow.settle_spec` asks for, the queue is served
until it is empty. -/
theorem runs_settle (fuel : Nat) {f : Flow} (h : Flow.Valid edges seed f)
    (hp : Flow.Pending edges 0 [] f) (hq : Queued seed.size f)
    (hfuel : f.queue.toList.length + seed.size * (TokenSet.ofList seed.toList.flatten).length ≤
      fuel + f.updates) :
    Runs edges f (.ok (Flow.settle edges fuel f)) := by
  induction fuel generalizing f with
  | zero =>
    have hupdates := h.updates_le
    have htotal := Flow.total_le h
    have hnil : f.queue.toList = [] := List.eq_nil_of_length_eq_zero (by omega)
    exact .done (Queue.pop?_eq_none_iff.mpr hnil)
  | succ fuel ih =>
    unfold Flow.settle
    cases hpop : f.queue.pop? with
    | none => exact .done hpop
    | some next =>
      obtain ⟨i, queue⟩ := next
      have hlist := Queue.toList_eq_of_pop? hpop
      have hi : i < seed.size := hq i (by rw [hlist]; exact List.mem_cons_self)
      obtain ⟨hvalid, hpending, hmeasure⟩ := Flow.visit_spec hedges h hp hpop
      have hqueued : Queued seed.size (Flow.visit edges { f with queue } i) := by
        apply queued_foldl (hedges i)
        intro j hj
        apply hq j
        rw [hlist]
        exact List.mem_cons_of_mem i hj
      exact .round hpop (serve_eq hsize hedges h hpop hi)
        (ih hvalid hpending hqueued (by omega))

/-- From the start, too. -/
theorem runs_start (hsources : ∀ i j, Edge edges i j → i < seed.size)
    (hasc : ∀ i, Ascending (seed.getD i [])) :
    Runs edges (.start seed) (.ok (Flow.settle edges (flowBound seed) (.start seed))) := by
  have hqueue : (Flow.start seed).queue.toList = List.range seed.size := List.append_nil _
  apply runs_settle hsize hedges (flowBound seed) (Flow.start_valid hasc)
  · intro i j hij
    rw [hqueue]
    exact Or.inl (List.mem_range.mpr (hsources i j hij))
  · intro i hi
    rw [hqueue] at hi
    exact List.mem_range.mp hi
  · rw [hqueue, List.length_range]
    exact Nat.le_refl _

end Ends

/-! ## Updates -/

/-- Every change of a set on the way is counted. -/
def Counts (f g : Flow) : Prop := f.updates ≤ g.updates ∧ (g.updates = f.updates → g.sets = f.sets)

section Counts

variable {edges : Array (List Nat)} {f g k : Flow}

theorem Counts.refl (f : Flow) : Counts f f := ⟨Nat.le_refl _, fun _ => rfl⟩

theorem Counts.trans (hfg : Counts f g) (hgk : Counts g k) : Counts f k := by
  obtain ⟨hle, hsets⟩ := hfg
  obtain ⟨hle', hsets'⟩ := hgk
  refine ⟨Nat.le_trans hle hle', fun heq => ?_⟩
  rw [hsets' (by omega), hsets (by omega)]

theorem counts_along (source : Nat) (f : Flow) (target : Nat) :
    Counts f (Flow.along source f target) := by
  rcases Flow.along_cases source f target with ⟨heq, -⟩ | ⟨-, -, -, hupdates, -⟩
  · rw [heq]
    exact .refl f
  · exact ⟨by omega, fun heq => by omega⟩

theorem counts_foldl (source : Nat) (targets : List Nat) (f : Flow) :
    Counts f (targets.foldl (Flow.along source) f) := by
  induction targets generalizing f with
  | nil => exact .refl f
  | cons target targets ih => exact (counts_along source f target).trans (ih _)

theorem counts_visit (edges : Array (List Nat)) (f : Flow) (queue : Queue) (source : Nat) :
    Counts f (Flow.visit edges { f with queue } source) :=
  counts_foldl source (edges.getD source [])
    { f with queue, waiting := f.waiting.setIfInBounds source false }

theorem counts_settle (edges : Array (List Nat)) (fuel : Nat) (f : Flow) :
    Counts f (Flow.settle edges fuel f) := by
  induction fuel generalizing f with
  | zero => exact .refl f
  | succ fuel ih =>
    rw [Flow.settle]
    split
    · exact .refl f
    · next i queue hpop => exact (counts_visit edges f queue i).trans (ih _)

/-- Nothing is left to carry along any edge. -/
def Idle (edges : Array (List Nat)) (f : Flow) : Prop := ∀ i j, Edge edges i j → f.Settled i j

theorem along_idle {source target : Nat} (hasc : ∀ i, Ascending (f.set i))
    (hs : f.Settled source target) : Flow.along source f target = f := by
  rcases Flow.along_cases source f target with ⟨heq, -⟩ | ⟨-, hdiff, -⟩
  · exact heq
  · rw [(TokenSet.isEmpty_diff_iff (hasc source) (hasc target)).mpr hs] at hdiff
    cases hdiff

theorem foldl_idle {source : Nat} {targets : List Nat} (hasc : ∀ i, Ascending (f.set i))
    (hs : ∀ j ∈ targets, f.Settled source j) : targets.foldl (Flow.along source) f = f := by
  induction targets with
  | nil => rfl
  | cons target targets ih =>
    obtain ⟨hs, hss⟩ := List.forall_mem_cons.mp hs
    rw [List.foldl_cons, along_idle hasc hs]
    exact ih hss

/-- If nothing is left to carry at first, no set grows. -/
theorem settle_idle (fuel : Nat) (hasc : ∀ i, Ascending (f.set i)) (hidle : Idle edges f) :
    (Flow.settle edges fuel f).updates = f.updates := by
  induction fuel generalizing f with
  | zero => rfl
  | succ fuel ih =>
    rw [Flow.settle]
    split
    · rfl
    · next i queue hpop =>
      -- Taking a place off the queue leaves the sets as they are.
      have hvisit : Flow.visit edges { f with queue } i =
          { f with queue, waiting := f.waiting.setIfInBounds i false } :=
        foldl_idle hasc (hidle i)
      rw [hvisit]
      exact ih hasc hidle

end Counts
end Propagation

/-! ## The result -/

section Spread

variable {edges : Array (List Nat)} {seed : Array TokenSet}

/-- What the places hold. -/
def held (sets : Array TokenSet) (i : Nat) : Set TokenId := {t | t ∈ sets.getD i []}

/-- Nothing is lost along an edge. -/
def Closed (edges : Array (List Nat)) (family : Nat → Set TokenId) : Prop :=
  ∀ i j, Edge edges i j → family i ⊆ family j

theorem isLeast_spread (hasc : ∀ i, Ascending (seed.getD i []))
    (hedges : ∀ i j, Edge edges i j → j < seed.size)
    (hsources : ∀ i j, Edge edges i j → i < seed.size) :
    IsLeast {family | held seed ≤ family ∧ Closed edges family} (held (spread seed edges).1) := by
  have hmem := fun j t => mem_spread_iff hasc hedges hsources (j := j) (t := t)
  refine ⟨⟨?_, ?_⟩, ?_⟩
  · intro i t ht
    exact (hmem i t).mpr ⟨i, .refl, ht⟩
  · intro i j hij t ht
    obtain ⟨k, hki, hk⟩ := (hmem i t).mp ht
    exact (hmem j t).mpr ⟨k, hki.tail hij, hk⟩
  · rintro family ⟨hseed, hclosed⟩ j t ht
    obtain ⟨i, hij, hi⟩ := (hmem j t).mp ht
    have hfamily : t ∈ family i := hseed i hi
    induction hij with
    | refl => exact hfamily
    | tail _ hedge ih => exact hclosed _ _ hedge (ih ((hmem _ t).mpr ⟨i, ‹_›, hi⟩))

/-- Where there is no list there is an empty one. -/
theorem getD_cases {α : Type} (lists : Array (List α)) (i : Nat) :
    lists.getD i [] = [] ∨ i < lists.size ∧ lists.getD i [] ∈ lists := by
  rw [Array.getD_eq_getD_getElem?]
  cases hi : lists[i]? with
  | none => exact .inl rfl
  | some list =>
    obtain ⟨hlt, -⟩ := Array.getElem?_eq_some_iff.mp hi
    exact .inr ⟨hlt, Array.mem_of_getElem? hi⟩

theorem edge_lt (hsize : edges.size = seed.size)
    (hedges : ∀ targets ∈ edges, ∀ j ∈ targets, j < seed.size) {i j : Nat} (h : Edge edges i j) :
    i < seed.size ∧ j < seed.size := by
  rcases getD_cases edges i with hnil | ⟨hlt, hmem⟩
  · rw [Edge, hnil] at h
    cases h
  · exact ⟨hsize ▸ hlt, hedges _ hmem j h⟩

/-- **The least closed family.** For ascending sets and edges between their places, the loop over
the queue ends and finds every place. A place ends up with the tokens of all places that lead to
it, itself included; this is the least family that holds the sets at first and loses nothing along
an edge. No set grows exactly if nothing is lost along an edge at first. -/
theorem spread_least (hasc : ∀ s ∈ seed, Ascending s) (hsize : edges.size = seed.size)
    (hedges : ∀ targets ∈ edges, ∀ j ∈ targets, j < seed.size) :
    (∀ result, Propagation.Spreads seed edges result ↔ result = .ok (spread seed edges)) ∧
      (spread seed edges).1.size = seed.size ∧
      (∀ i, Ascending ((spread seed edges).1.getD i [])) ∧
      (∀ j t, t ∈ (spread seed edges).1.getD j [] ↔
        ∃ i, ReflTransGen (Edge edges) i j ∧ t ∈ seed.getD i []) ∧
      IsLeast {family | held seed ≤ family ∧ Closed edges family} (held (spread seed edges).1) ∧
      ((spread seed edges).2 = 0 ↔ Closed edges (held seed)) := by
  have hascending : ∀ i, Ascending (seed.getD i []) := by
    intro i
    rcases getD_cases seed i with hnil | ⟨-, hmem⟩
    · rw [hnil]
      exact TokenSet.ascending_nil
    · exact hasc _ hmem
  have hsources := fun i j (hij : Edge edges i j) => (edge_lt hsize hedges hij).1
  have htargets := fun i j (hij : Edge edges i j) => (edge_lt hsize hedges hij).2
  obtain ⟨f, hsets, hvalid, hsettled⟩ := spread_settled hascending htargets hsources
  refine ⟨?_, by rw [hsets]; exact hvalid.size_sets,
    ascending_spread hascending htargets hsources,
    fun j t => mem_spread_iff hascending htargets hsources,
    isLeast_spread hascending htargets hsources, ?_, ?_⟩
  · have hrun := Propagation.runs_start hsize htargets hsources hascending
    intro result
    constructor
    · rintro ⟨f, hf, rfl⟩
      rw [hf.unique hrun]
      rfl
    · rintro rfl
      exact ⟨_, hrun, rfl⟩
  · intro hzero
    obtain ⟨-, hsame⟩ := Propagation.counts_settle edges (flowBound seed) (.start seed)
    have hseed : f.sets = seed := hsets.symm.trans (hsame hzero)
    intro i j hij t ht
    have hcarried := hsettled i j hij t
    unfold Flow.set at hcarried
    rw [hseed] at hcarried
    exact hcarried ht
  · intro hclosed
    exact Propagation.settle_idle (flowBound seed) hascending hclosed

/-- Two places in a circle, one of them with edges to itself, and a place that leads to them. -/
def circle : Array (List Nat) := #[[1], [0, 1, 1], [1, 1]]

/-- The tokens go round the circle, and none goes back to the place outside of it. -/
theorem spread_of_circle :
    Propagation.Spreads #[[5], [], [3]] circle (.ok (#[[3, 5], [3, 5], [3]], 3)) ∧
      (∃ i, ReflTransGen (Edge circle) i 0 ∧ 3 ∈ #[[5], [], [3]].getD i []) ∧
      ¬ Closed circle (held #[[5], [], [3]]) := by
  have hspread : spread #[[5], [], [3]] circle = (#[[3, 5], [3, 5], [3]], 3) := by cbv
  have hasc : ∀ s ∈ (#[[5], [], [3]] : Array TokenSet), Ascending s := by decide
  have hsize : circle.size = (#[[5], [], [3]] : Array TokenSet).size := rfl
  obtain ⟨hrun, -, -, hmem, -, hzero⟩ := spread_least hasc hsize (by decide)
  rw [hspread] at hrun hmem hzero
  exact ⟨(hrun _).mpr rfl, (hmem 0 3).mp (by decide), fun h => absurd (hzero.mpr h) (by decide)⟩

end Spread
end GrammarKit.Compile
