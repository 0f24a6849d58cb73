import GrammarKit.Proofs.Declaration
import GrammarKit.Proofs.Grammar.Blob

/-!
# Interning kinds

Kinds are interned in a list of names with a map next to it, from names to their places
(`Interner`). Both change when a name is interned, a blob has the names only, and the map is
made again when the blob was read. The two never come apart: the list and the map do together
what the list does alone, so the map is always the one that its names make
(`Interner.interns_ofTable`).

* `Interner.Stable`: what holds of an interner whatever names were interned.
* `Declaration.kinds_performed`: what is called while a grammar is declared, the names in it are
  interned in their order, those of abandoned rules too.
* `RuleDecl.Declares`: the kinds of a rule are the ones that its draft named.
-/
namespace GrammarKit

/-! ## Tables of names -/

namespace KindTable

variable {t t' : KindTable} {name : String} {k : Kind}

/-- The numbers of some names, which are interned from left to right. -/
def interns (t : KindTable) : List String → List Kind × KindTable
  | [] => ([], t)
  | name :: rest =>
    let (k, t) := t.intern name
    let (ks, t) := t.interns rest
    (k :: ks, t)

theorem intern_of_mem (h : name ∈ t.names) :
    ∃ k, t.get? name = some k ∧ t.intern name = (k, t) := by
  cases hk : t.get? name with
  | none => exact absurd h (get?_eq_none_iff.mp hk)
  | some k =>
    refine ⟨k, rfl, ?_⟩
    unfold intern
    rw [hk]

theorem intern_of_not_mem (h : name ∉ t.names) :
    t.intern name = (t.names.length, ⟨t.names ++ [name]⟩) := by
  unfold intern
  rw [get?_eq_none_iff.mpr h]

/-- Where no name is repeated, names and numbers find each other. -/
theorem get?_eq_some_iff (h : t.names.Nodup) : t.get? name = some k ↔ t.name? k = some name := by
  refine ⟨name?_of_get?, fun hk => ?_⟩
  obtain ⟨k', hk', -⟩ := intern_of_mem (List.mem_of_getElem? hk)
  rw [hk', name?_inj h hk (name?_of_get? hk')]

theorem name?_intern (t : KindTable) (name : String) :
    (t.intern name).2.name? (t.intern name).1 = some name := by
  refine name?_of_get? ?_
  rw [get?_intern, if_pos rfl]

/-- A table with more names behind the old ones names the old numbers as before. -/
theorem name?_mono (h : t.names <+: t'.names) (hk : t.name? k = some name) :
    t'.name? k = some name := by
  obtain ⟨later, hlater⟩ := h
  obtain ⟨hlt, -⟩ := List.getElem?_eq_some_iff.mp hk
  rw [name?, ← hlater, List.getElem?_append_left hlt]
  exact hk

theorem prefix_intern (t : KindTable) (name : String) : t.names <+: (t.intern name).2.names := by
  by_cases h : name ∈ t.names
  · obtain ⟨k, -, heq⟩ := intern_of_mem h
    exact ⟨[], by rw [heq, List.append_nil]⟩
  · rw [intern_of_not_mem h]
    exact List.prefix_append _ _

theorem prefix_interns (t : KindTable) (names : List String) :
    t.names <+: (t.interns names).2.names := by
  induction names generalizing t with
  | nil => exact List.prefix_refl _
  | cons name names ih => exact (t.prefix_intern name).trans (ih _)

theorem interns_append (t : KindTable) (names names' : List String) :
    (t.interns (names ++ names')).2 = ((t.interns names).2.interns names').2 := by
  induction names generalizing t with
  | nil => rfl
  | cons name names ih => exact ih _

/-- A name is listed where it was interned first. -/
theorem names_intern {calls : List String} (h : t.names = calls.eraseDups) (name : String) :
    (t.intern name).2.names = (calls ++ [name]).eraseDups := by
  have hmem : name ∈ t.names ↔ name ∈ calls := by rw [h, List.mem_eraseDups]
  rw [eraseDups_concat]
  by_cases hname : name ∈ calls
  · obtain ⟨k, -, heq⟩ := intern_of_mem (hmem.mpr hname)
    rw [heq, if_pos hname, h]
  · rw [intern_of_not_mem (mt hmem.mp hname), if_neg hname, h]

theorem names_interns {calls : List String} (h : t.names = calls.eraseDups)
    (names : List String) : (t.interns names).2.names = (calls ++ names).eraseDups := by
  induction names generalizing t calls with
  | nil => exact h.trans (congrArg List.eraseDups (List.append_nil calls).symm)
  | cons name names ih =>
    rw [List.append_cons]
    exact ih (names_intern h name)

/-- The numbers that names get name them in the end. -/
theorem forall₂_interns (t : KindTable) (names : List String) :
    List.Forall₂ (fun name k => (t.interns names).2.name? k = some name) names
      (t.interns names).1 := by
  induction names generalizing t with
  | nil => exact .nil
  | cons name names ih =>
    exact .cons (name?_mono (prefix_interns _ names) (t.name?_intern name)) (ih _)

end KindTable

/-! ## Names with a map -/

/-- The names of kinds, and the number of each of them. -/
structure Interner where
  map : Assoc String Kind
  names : List String
  deriving DecidableEq, Repr

namespace Interner

def empty : Interner := ⟨[], []⟩

def get? (t : Interner) (name : String) : Option Kind := t.map.get? name

def name? (t : Interner) (k : Kind) : Option String := t.names[k]?

def intern (t : Interner) (name : String) : Kind × Interner :=
  match t.map.get? name with
  | some k => (k, t)
  | none => (t.names.length, ⟨t.map.put name t.names.length, t.names ++ [name]⟩)

/-- The numbers of some names, which are interned from left to right. -/
def interns (t : Interner) : List String → List Kind × Interner
  | [] => ([], t)
  | name :: rest =>
    let (k, t) := t.intern name
    let (ks, t) := t.interns rest
    (k :: ks, t)

/-- The names of a table with the map that they make. -/
def ofTable (t : KindTable) : Interner := ⟨t.index, t.names⟩

/-- The bytes of the names; the map is left out. -/
def stored (t : Interner) : List UInt8 := Codec.kindTable.write ⟨t.names⟩

/-- Reads names and makes the map again. -/
def restored : Reader Interner := Codec.kindTable.read.map ofTable

theorem get?_ofTable (t : KindTable) (name : String) : (ofTable t).get? name = t.get? name :=
  t.get?_index name

theorem intern_ofTable (t : KindTable) (name : String) :
    (ofTable t).intern name = ((t.intern name).1, ofTable (t.intern name).2) := by
  have hfound := get?_ofTable t name
  unfold get? at hfound
  unfold intern KindTable.intern
  rw [hfound]
  cases t.get? name with
  | some k => rfl
  | none =>
    dsimp only
    rw [ofTable, ofTable, KindTable.index_concat]

/-- The list and the map do together what the list does alone. -/
theorem interns_ofTable (t : KindTable) (names : List String) :
    (ofTable t).interns names = ((t.interns names).1, ofTable (t.interns names).2) := by
  induction names generalizing t with
  | nil => rfl
  | cons name names ih =>
    rw [interns, intern_ofTable]
    dsimp only
    rw [ih]
    rfl

theorem interns_empty (names : List String) : empty.interns names =
    ((KindTable.empty.interns names).1, ofTable (KindTable.empty.interns names).2) :=
  interns_ofTable .empty names

/-- What holds of an interner after some calls that gave these numbers. -/
structure Stable (t : Interner) (calls : List String) (numbers : List Kind) : Prop where
  /-- Names are listed in the order in which they came first. -/
  names_eq : t.names = calls.eraseDups
  nodup : t.names.Nodup
  get?_iff : ∀ name k, t.get? name = some k ↔ t.name? k = some name
  /-- A number names what it was given for, whatever is interned later. -/
  kept : ∀ later,
    List.Forall₂ (fun name k => (t.interns later).2.name? k = some name) calls numbers
  /-- Interning a known name gives its number and changes nothing. -/
  known : ∀ name ∈ calls, ∃ k, t.get? name = some k ∧ t.intern name = (k, t)
  /-- The interner comes back as it was, if its names fit into a blob. -/
  restored : Codec.Each Codec.Short t.names → ∀ rest,
    restored (t.stored ++ rest) = .ok (t, rest)

theorem stable_interns (calls : List String) :
    (empty.interns calls).2.Stable calls (empty.interns calls).1 := by
  rw [interns_empty]
  generalize htable : KindTable.empty.interns calls = run
  obtain ⟨numbers, t⟩ := run
  have hempty : KindTable.empty.names = [].eraseDups := rfl
  have hnames : t.names = calls.eraseDups := by
    have := KindTable.names_interns hempty calls
    rwa [htable] at this
  have hnodup : t.names.Nodup := hnames ▸ nodup_eraseDups calls
  have hnumbers : List.Forall₂ (fun name k => t.name? k = some name) calls numbers := by
    have := KindTable.forall₂_interns .empty calls
    rwa [htable] at this
  constructor
  case names_eq => exact hnames
  case nodup => exact hnodup
  case get?_iff =>
    intro name k
    rw [get?_ofTable]
    exact KindTable.get?_eq_some_iff hnodup
  case kept =>
    intro later
    rw [interns_ofTable]
    exact hnumbers.imp fun _ _ => KindTable.name?_mono (t.prefix_interns later)
  case known =>
    intro name hname
    obtain ⟨k, hk, heq⟩ := KindTable.intern_of_mem (hnames ▸ List.mem_eraseDups.mpr hname)
    refine ⟨k, (get?_ofTable t name).trans hk, ?_⟩
    rw [intern_ofTable, heq]
  case restored =>
    intro hshort rest
    exact Reader.map_of_ok (Codec.faithful_kindTable.read_write t rest hshort)

end Interner

/-! ## Kinds of a declaration -/

/-- The names that a reference to a kind interns. -/
def KindRef.names : KindRef → List String
  | .named name => [name]
  | .numbered _ => []

def Param.names (p : Param KindRef) : List String := p.shape.kind?.elim [] (·.1.names)

/-- The names that a draft interns, from left to right. -/
def RuleDraft.names (draft : RuleDraft) : List String :=
  draft.produces :: draft.params.flatMap (·.names)

/-- The number is that of the kind that is referred to. -/
def KindRef.Means (kinds : KindTable) : KindRef → Kind → Prop
  | .named name, k => kinds.name? k = some name
  | .numbered k', k => k = k'

/-- The shapes differ in how they call a kind. -/
inductive Shape.Renamed {κ κ' : Type} (R : κ → κ' → Prop) : Shape κ → Shape κ' → Prop where
  | terminal {tokens : List TokenId} {optional : Bool} :
      Renamed R (.terminal tokens optional) (.terminal tokens optional)
  | nonTerminal {kind : κ} {kind' : κ'} {maxRank : Option Nat} {optional : Bool} : R kind kind' →
      Renamed R (.nonTerminal kind maxRank optional) (.nonTerminal kind' maxRank optional)
  | list {element : κ} {element' : κ'} {maxRank : Option Nat} {min : Nat}
      {delimiter : Option Delimiter} : R element element' →
      Renamed R (.list element maxRank min delimiter) (.list element' maxRank min delimiter)

/-- The rule is that of the draft, with the numbers of the kinds that the draft refers to. -/
structure RuleDecl.Declares (kinds : KindTable) (draft : RuleDraft) (r : RuleDecl) : Prop where
  action : r.action = draft.action
  produces : kinds.name? r.produces = some draft.produces
  rank : r.rank = draft.rank
  params : List.Forall₂ (fun p q => q.name = p.name ∧
    p.shape.Renamed (KindRef.Means kinds) q.shape) draft.params r.params

section Mono

variable {kinds kinds' : KindTable} (h : kinds.names <+: kinds'.names)
include h

theorem KindRef.Means.mono {ref : KindRef} {k : Kind} (hk : ref.Means kinds k) :
    ref.Means kinds' k := by
  cases ref with
  | named name => exact KindTable.name?_mono h hk
  | numbered k' => exact hk

theorem Shape.Renamed.mono {shape : Shape KindRef} {shape' : Shape Kind}
    (hs : shape.Renamed (KindRef.Means kinds) shape') :
    shape.Renamed (KindRef.Means kinds') shape' := by
  cases hs with
  | terminal => exact .terminal
  | nonTerminal hk => exact .nonTerminal (hk.mono h)
  | list hk => exact .list (hk.mono h)

theorem RuleDecl.Declares.mono {draft : RuleDraft} {r : RuleDecl} (hr : r.Declares kinds draft) :
    r.Declares kinds' draft where
  action := hr.action
  produces := KindTable.name?_mono h hr.produces
  rank := hr.rank
  params := hr.params.imp fun _ _ hq => ⟨hq.1, hq.2.mono h⟩

end Mono

namespace KindTable

theorem refer_eq (t : KindTable) (ref : KindRef) : (t.refer ref).2 = (t.interns ref.names).2 := by
  cases ref with
  | named name => rfl
  | numbered k => rfl

theorem refer_means (t : KindTable) (ref : KindRef) : ref.Means (t.refer ref).2 (t.refer ref).1 := by
  cases ref with
  | named name => exact t.name?_intern name
  | numbered k => rfl

/-- Numbering a parameter interns the name in it. -/
theorem numberShape_eq (t : KindTable) (p : Param KindRef) :
    (t.numberShape p.shape).2 = (t.interns p.names).2 := by
  obtain ⟨name, shape⟩ := p
  cases shape with
  | terminal tokens optional => rfl
  | nonTerminal kind maxRank optional => exact t.refer_eq kind
  | list element maxRank min delimiter => exact t.refer_eq element

theorem numberShape_renamed (t : KindTable) (shape : Shape KindRef) :
    shape.Renamed (KindRef.Means (t.numberShape shape).2) (t.numberShape shape).1 := by
  cases shape with
  | terminal tokens optional => exact .terminal
  | nonTerminal kind maxRank optional => exact .nonTerminal (t.refer_means kind)
  | list element maxRank min delimiter => exact .list (t.refer_means element)

theorem numberParams_eq (t : KindTable) (params : List (Param KindRef)) :
    (t.numberParams params).2 = (t.interns (params.flatMap (·.names))).2 := by
  induction params generalizing t with
  | nil => rfl
  | cons p params ih =>
    rw [List.flatMap_cons, interns_append, ← numberShape_eq]
    exact ih _

theorem numberParams_renamed (t : KindTable) (params : List (Param KindRef)) :
    List.Forall₂ (fun p q => q.name = p.name ∧
      p.shape.Renamed (KindRef.Means (t.numberParams params).2) q.shape) params
      (t.numberParams params).1 := by
  induction params generalizing t with
  | nil => exact .nil
  | cons p params ih =>
    -- the parameters behind this one only add names
    have hlater : (t.numberShape p.shape).2.names <+:
        ((t.numberShape p.shape).2.numberParams params).2.names := by
      rw [numberParams_eq]
      exact prefix_interns _ _
    exact .cons ⟨rfl, (t.numberShape_renamed p.shape).mono hlater⟩ (ih _)

end KindTable

namespace Declaration

/-- What a grammar is declared by. -/
inductive Call where
  | kind (name : String)
  | rule (draft : RuleDraft)
  /-- A rule that is not added in the end. -/
  | abandon (draft : RuleDraft)
  deriving DecidableEq, Repr

namespace Call

/-- The names that a call interns. -/
def names : Call → List String
  | .kind name => [name]
  | .rule draft | .abandon draft => draft.names

/-- The rule that a call adds. -/
def added : Call → List RuleDraft
  | .rule draft => [draft]
  | .kind _ | .abandon _ => []

end Call

def perform (d : Declaration) : Call → Declaration
  | .kind name => (d.withKind name).2
  | .rule draft => (d.withRule draft).2
  | .abandon draft => d.withAbandoned draft

/-- The declaration after some calls. -/
def performed (calls : List Call) : Declaration := calls.foldl perform .empty

theorem performed_concat (calls : List Call) (call : Call) :
    performed (calls ++ [call]) = (performed calls).perform call := by
  rw [performed, List.foldl_append]
  rfl

theorem number_eq (d : Declaration) (draft : RuleDraft) :
    (d.number draft).2 = (d.kinds.interns draft.names).2 :=
  KindTable.numberParams_eq _ _

theorem declares_number (d : Declaration) (draft : RuleDraft) :
    (d.number draft).1.Declares (d.number draft).2 draft := by
  have hparams : (d.kinds.intern draft.produces).2.names <+: (d.number draft).2.names := by
    rw [number_eq]
    exact KindTable.prefix_interns _ _
  exact ⟨rfl, KindTable.name?_mono hparams (d.kinds.name?_intern draft.produces), rfl,
    KindTable.numberParams_renamed _ _⟩

theorem kinds_perform (d : Declaration) (call : Call) :
    (d.perform call).kinds = (d.kinds.interns call.names).2 := by
  cases call with
  | kind name => rfl
  | rule draft => exact d.number_eq draft
  | abandon draft => exact d.number_eq draft

/-- All names in the calls are interned, whether or not a rule is added. -/
theorem kinds_performed (calls : List Call) :
    (performed calls).kinds = (KindTable.empty.interns (calls.flatMap (·.names))).2 := by
  induction calls using List.reverseRecOn with
  | nil => rfl
  | append_singleton calls call ih =>
    rw [performed_concat, kinds_perform, ih, List.flatMap_append, KindTable.interns_append,
      List.flatMap_singleton]

/-- Rules that were added keep their kinds, and a rule that is added gets them. -/
theorem declares_perform {d : Declaration} {drafts : List RuleDraft}
    (h : List.Forall₂ (fun draft r => RuleDecl.Declares d.kinds draft r) drafts d.rules)
    (call : Call) :
    List.Forall₂ (fun draft r => RuleDecl.Declares (d.perform call).kinds draft r)
      (drafts ++ call.added) (d.perform call).rules := by
  have hkinds : d.kinds.names <+: (d.perform call).kinds.names := by
    rw [kinds_perform]
    exact KindTable.prefix_interns _ _
  have hold := h.imp fun _ _ hr => RuleDecl.Declares.mono hkinds hr
  cases call with
  | kind name => rwa [Call.added, List.append_nil]
  | rule draft => exact List.rel_append hold (.cons (d.declares_number draft) .nil)
  | abandon draft => rwa [Call.added, List.append_nil]

theorem declares_performed (calls : List Call) :
    List.Forall₂ (fun draft r => RuleDecl.Declares (performed calls).kinds draft r)
      (calls.flatMap (·.added)) (performed calls).rules := by
  induction calls using List.reverseRecOn with
  | nil => exact .nil
  | append_singleton calls call ih =>
    rw [performed_concat, List.flatMap_append, List.flatMap_singleton]
    exact declares_perform ih call

end Declaration

open Declaration

/-- **Interned kinds.** Names and numbers of kinds find each other, whatever names were
interned, and also when the names were stored and read again. So every kind of a declaration
has the name that it was declared with: the kinds that a rule refers to by name, and the ones
that it refers to by a number that declaring a name gave, for numbers are taken as they are. The
names of abandoned rules have their places among the others. -/
theorem kinds_keep_their_names :
    (∀ calls : List String,
      Interner.empty.interns calls =
        ((KindTable.empty.interns calls).1, .ofTable (KindTable.empty.interns calls).2) ∧
      (Interner.empty.interns calls).2.Stable calls (Interner.empty.interns calls).1) ∧
    ∀ calls : List Call,
      Interner.ofTable (performed calls).kinds =
        (Interner.empty.interns (calls.flatMap (·.names))).2 ∧
      List.Forall₂ (fun draft r => RuleDecl.Declares (performed calls).kinds draft r)
        (calls.flatMap (·.added)) (performed calls).rules ∧
      ∀ before name after, calls = before ++ .kind name :: after →
        (performed calls).kinds.name? ((performed before).withKind name).1 = some name := by
  refine ⟨fun calls => ⟨Interner.interns_empty calls, Interner.stable_interns calls⟩,
    fun calls => ⟨?_, declares_performed calls, ?_⟩⟩
  · rw [Interner.interns_empty, kinds_performed]
  · intro before name after hcalls
    have hlater : ((performed before).kinds.intern name).2.names <+:
        (performed calls).kinds.names := by
      rw [kinds_performed, kinds_performed, hcalls, List.flatMap_append, KindTable.interns_append,
        List.flatMap_cons, KindTable.interns_append]
      exact KindTable.prefix_interns _ _
    exact KindTable.name?_mono hlater ((performed before).kinds.name?_intern name)

/-- A rule for blanks is begun after the first kind, and abandoned. -/
def itemCalls : List Call :=
  [.kind "item", .abandon ⟨"gap", "blank", 0, []⟩,
    .rule ⟨"list", "list", 0, [⟨"items", .list (.named "item") none 1 none⟩,
      ⟨"last", .nonTerminal (.numbered 0) none false⟩]⟩]

/-- The kinds of lists come behind the one of blanks, and both references to items mean the
first kind. -/
theorem kinds_of_itemCalls :
    (performed itemCalls).kinds.names = ["item", "blank", "list"] ∧
      (performed itemCalls).kinds.name? ((performed []).withKind "item").1 = some "item" ∧
      List.Forall₂ (fun draft r => RuleDecl.Declares (performed itemCalls).kinds draft r)
        (itemCalls.flatMap (·.added)) (performed itemCalls).rules ∧
      ∀ rest, Interner.restored ((Interner.ofTable (performed itemCalls).kinds).stored ++ rest) =
        .ok (Interner.ofTable (performed itemCalls).kinds, rest) := by
  obtain ⟨hstable, hcalls⟩ := kinds_keep_their_names
  obtain ⟨htable, hrules, hkinds⟩ := hcalls itemCalls
  have hnames : (performed itemCalls).kinds.names = ["item", "blank", "list"] := by decide
  refine ⟨hnames, hkinds [] "item" _ rfl, hrules, ?_⟩
  rw [htable]
  refine (hstable _).2.restored ?_
  rw [← htable]
  show Codec.Each Codec.Short (performed itemCalls).kinds.names
  rw [hnames]
  decide

end GrammarKit
