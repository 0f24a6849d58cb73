import GrammarKit.Proofs.Compile.Enumeration

/-!
# Sharing pairs of rules

Lists with one key share a pair of rules, which the first of them makes. The rules do not
show that a pair is shared: every list has the rules that it has when it is compiled alone,
and only the rule for its leading elements has an id of its own (`AsAlone`).

* `Context.Plans.eq_of_key`: the key of a list tells what its pair is made of.
* `Paired`: the invariant over the keys so far. `Paired.pair` keeps it for a key that is known
  and for a new one, `Paired.push` for a rule that belongs to no pair.
* `Shared`: the same with the steps made so far. `Shared.step` is about one more list,
  `Shared.steps` about a run and `Parts.Made.shared` about a declaration.
-/
namespace GrammarKit

/-- The step with its rules called by other ids. -/
def Step.rename (place : RuleId → RuleId) : Step → Step
  | .terminal tokens => .terminal tokens
  | .nonTerminal rules => .nonTerminal (rules.map place)

/-- The rule before it learned its tokens. -/
def Rule.bare (r : Rule) : Rule := { r with starting := [], ending := [] }

/-- What the variants of a grammar were compiled against. -/
def Grammar.context (g : Grammar) : Compile.Context :=
  ⟨g.tokens, g.substitutes, g.kinds, g.ranks⟩

/-- The lists among some uses of parameters. -/
def listUses (uses : List (Param Kind × Step)) : List (Param Kind × Step) :=
  uses.filter (·.1.shape.isList)

theorem listUses_concat (uses : List (Param Kind × Step)) (use : Param Kind × Step) :
    listUses (uses ++ [use]) = listUses uses ++ if use.1.shape.isList then [use] else [] := by
  by_cases h : use.1.shape.isList <;> simp [listUses, h]

namespace Compile

variable {cx : Context} {f : RuleId}

/-! ## Plans -/

/-- The two rules of a list, for an element that is the last one and for one that is not. -/
def ListPlan.pairRules (l : ListPlan) (last : RuleId) : List Rule :=
  [⟨last, l.ranked, .listLast, l.lastSteps, [], [], []⟩,
    ⟨last + 1, l.ranked, .listMore, l.moreSteps last (last + 1), [], [], []⟩]

namespace Context.Plans

variable {shape shape' : Shape Kind} {l l' : ListPlan}

/-- Elements have the highest rank that the key lets them have. -/
theorem ranked_eq (h : cx.Plans shape l) :
    l.ranked = ⟨l.key.element, cx.elementRank l.key.element l.key.maxRank⟩ := by
  obtain ⟨hl⟩ := h
  obtain ⟨-, -, hranked, -⟩ := listPlan_cases hl
  rw [hranked, (listPlan_ok hl).2.1]

/-- Plans with one key differ in their minimum only. -/
theorem eq_of_key (h : cx.Plans shape l) (h' : cx.Plans shape' l') (hk : l.key = l'.key) :
    l' = { l with min := l'.min } := by
  have hranked : l'.ranked = l.ranked := by rw [h.ranked_eq, h'.ranked_eq, hk]
  have hitems : l'.items = l.items := (h.fits.items_eq_of_key h'.fits hk).symm
  have hdelimiter : l'.delimiter = l.delimiter := by
    rw [h.fits.delimiter_eq, h'.fits.delimiter_eq, hk]
  obtain ⟨key, ranked, items, delimiter, min⟩ := l'
  dsimp only at hk hranked hitems hdelimiter
  rw [← hk, hranked, hitems, hdelimiter]

theorem pairRules_eq_of_key (h : cx.Plans shape l) (h' : cx.Plans shape' l')
    (hk : l.key = l'.key) (last : RuleId) : l'.pairRules last = l.pairRules last := by
  rw [h.eq_of_key h' hk]
  rfl

end Context.Plans

namespace ListRules

variable {s s' : ListRules} {l : ListPlan} {shape : Shape Kind}

/-! ## One list -/

/-- A rule for leading elements is no pair. -/
theorem pairs_step (s : ListRules) (l : ListPlan) : (s.step l).2.1.pairs = (s.pair l).2.1.pairs := by
  rcases Nat.lt_or_ge 2 l.min with hlong | hshort
  · rw [(s.step_of_long hlong).2]
    rfl
  · rw [(s.step_of_short hshort).2]

/-- The step of a list, and the rules that it leads to, are those of the list compiled alone
from the id of its pair on. The pair keeps its ids; another rule may have a different one. -/
def AsAlone (l : ListPlan) (last : RuleId) (st : Step) (rules : List Rule) : Prop :=
  ∃ place : RuleId → RuleId, place last = last ∧ place (last + 1) = last + 1 ∧
    st = ((startingAt last).step l).1.rename place ∧
    ∀ r ∈ ((startingAt last).step l).2.1.rules, { r with id := place r.id } ∈ rules

theorem AsAlone.mono {last : RuleId} {st : Step} {rules rules' : List Rule}
    (hsub : rules ⊆ rules') (h : AsAlone l last st rules) : AsAlone l last st rules' := by
  obtain ⟨place, hlast, hmore, hst, hrules⟩ := h
  exact ⟨place, hlast, hmore, hst, fun r hr => hsub (hrules r hr)⟩

/-- A list that is compiled alone makes its pair. -/
theorem pair_startingAt (l : ListPlan) (last : RuleId) :
    ((startingAt last).pair l).1 = (last, last + 1) ∧
      ((startingAt last).pair l).2.1.rules = l.pairRules last ∧
      ((startingAt last).pair l).2.1.next = last + 2 :=
  ⟨rfl, rfl, rfl⟩

/-- A list whose pair is at hand becomes what it does alone. -/
theorem asAlone_step (l : ListPlan) {last : RuleId} (hpair : (s.pair l).1 = (last, last + 1))
    (hrules : ∀ r ∈ l.pairRules last, r ∈ (s.pair l).2.1.rules) :
    AsAlone l last (s.step l).1 (s.step l).2.1.rules := by
  obtain ⟨hpair₀, hrules₀, hnext₀⟩ := pair_startingAt l last
  rcases Nat.lt_or_ge 2 l.min with hlong | hshort
  · obtain ⟨hst, hlists⟩ := s.step_of_long hlong
    obtain ⟨hst₀, hlists₀⟩ := (startingAt last).step_of_long hlong
    -- alone, the rule for the leading elements comes right behind the pair
    let place : RuleId → RuleId := fun id => if id = last + 2 then (s.pair l).2.1.next else id
    have hlast : place last = last := if_neg (by grind)
    have hmore : place (last + 1) = last + 1 := if_neg (by grind)
    have hlead : place (last + 2) = (s.pair l).2.1.next := if_pos rfl
    refine ⟨place, hlast, hmore, ?_, ?_⟩
    · rw [hst, hst₀, hnext₀, Step.rename, List.map_singleton, hlead]
    · rw [hlists, hlists₀, rules_push, rules_push, hrules₀, hpair, hpair₀, hnext₀]
      intro r hr
      rcases List.mem_append.mp hr with hr | hr
      · have hid : place r.id = r.id := by
          rcases List.mem_cons.mp hr with rfl | hr
          · exact hlast
          · rw [List.mem_singleton.mp hr]
            exact hmore
        rw [hid]
        exact List.mem_append_left _ (hrules r hr)
      · rw [List.mem_singleton.mp hr]
        dsimp only
        rw [hlead]
        exact List.mem_append_right _ (List.mem_singleton_self _)
  · obtain ⟨hst, hlists⟩ := s.step_of_short hshort
    obtain ⟨hst₀, hlists₀⟩ := (startingAt last).step_of_short hshort
    refine ⟨id, rfl, rfl, ?_, ?_⟩
    · rw [hst, hst₀, hpair, hpair₀, Step.rename, List.map_id]
    · rw [hlists, hlists₀, hrules₀]
      exact hrules

/-! ## Pairs -/

/-- The ids of the rules of one origin. -/
def idsFrom (rules : List Rule) (origin : Origin) : List RuleId :=
  (rules.filter (·.origin = origin)).map (·.id)

theorem idsFrom_append (rules rules' : List Rule) (origin : Origin) :
    idsFrom (rules ++ rules') origin = idsFrom rules origin ++ idsFrom rules' origin := by
  rw [idsFrom, List.filter_append, List.map_append]
  rfl

/-- There is a pair for each of the keys, which is the one of every list with the key. -/
structure Paired (cx : Context) (f : RuleId) (keys : List ListKey) (s : ListRules) : Prop where
  sound : s.Sound cx f
  keys_eq : s.pairs.map (·.1) = keys.eraseDups
  lasts : idsFrom s.rules .listLast = s.pairs.map (·.2.1)
  mores : idsFrom s.rules .listMore = s.pairs.map (·.2.1 + 1)
  found : ∀ shape l p, cx.Plans shape l → s.pairs.get? l.key = some p →
    p.2 = p.1 + 1 ∧ ∀ r ∈ l.pairRules p.1, r ∈ s.rules

namespace Paired

variable {keys : List ListKey}

theorem startingAt (cx : Context) (f : RuleId) : Paired cx f [] (startingAt f) :=
  ⟨sound_startingAt cx f, rfl, rfl, rfl, nofun⟩

theorem get?_eq_none_iff (h : Paired cx f keys s) {key : ListKey} :
    s.pairs.get? key = none ↔ key ∉ keys := by
  rw [Assoc.get?_eq_none_iff, h.keys_eq, List.mem_eraseDups]

/-- A list with a new key makes its pair. -/
theorem withPair (h : Paired cx f keys s) (hl : cx.Plans shape l)
    (hnew : s.pairs.get? l.key = none) : Paired cx f (keys ++ [l.key]) (s.withPair l) := by
  have hkey := h.get?_eq_none_iff.mp hnew
  have hpairs : (s.withPair l).pairs = s.pairs ++ [(l.key, s.next, s.next + 1)] :=
    Assoc.put_eq_concat (Assoc.get?_eq_none_iff.mp hnew) _
  have hrules : (s.withPair l).rules = s.rules ++ l.pairRules s.next := rules_withPair s l
  refine ⟨sound_withPair h.sound hl.fits hnew, ?_, ?_, ?_, fun shape' l' p hl' hp => ?_⟩
  · rw [hpairs, List.map_append, h.keys_eq, eraseDups_concat, if_neg hkey]
    rfl
  · rw [hpairs, hrules, idsFrom_append, h.lasts, List.map_append]
    rfl
  · rw [hpairs, hrules, idsFrom_append, h.mores, List.map_append]
    rfl
  · rw [get?_pairs_withPair] at hp
    rw [hrules]
    split at hp
    · next hk =>
      cases hp
      rw [hl.pairRules_eq_of_key hl' hk.symm]
      exact ⟨rfl, fun r hr => List.mem_append_right _ hr⟩
    · obtain ⟨hadjacent, hmem⟩ := h.found shape' l' p hl' hp
      exact ⟨hadjacent, fun r hr => List.mem_append_left _ (hmem r hr)⟩

theorem pair (h : Paired cx f keys s) (hl : cx.Plans shape l) :
    Paired cx f (keys ++ [l.key]) (s.pair l).2.1 := by
  rcases s.pair_cases l with ⟨p, hp, heq⟩ | ⟨hnew, heq⟩
  · have hkey : l.key ∈ keys := by
      by_contra hnot
      rw [h.get?_eq_none_iff.mpr hnot] at hp
      cases hp
    rw [heq]
    refine { h with keys_eq := ?_ }
    rw [eraseDups_concat, if_pos hkey]
    exact h.keys_eq
  · rw [heq]
    exact h.withPair hl hnew

/-- A rule that belongs to no pair may be added. -/
theorem push (h : Paired cx f keys s) {ranked : RankedType} {steps : List Step}
    (hsound : (s.push ranked .listLeading steps).Sound cx f) :
    Paired cx f keys (s.push ranked .listLeading steps) := by
  have hrules := s.rules_push ranked .listLeading steps
  refine ⟨hsound, h.keys_eq, ?_, ?_, fun shape l p hl hp => ?_⟩
  · rw [hrules, idsFrom_append, h.lasts]
    exact List.append_nil _
  · rw [hrules, idsFrom_append, h.mores]
    exact List.append_nil _
  · obtain ⟨hadjacent, hmem⟩ := h.found shape l p hl hp
    exact ⟨hadjacent, fun r hr => hrules ▸ List.mem_append_left _ (hmem r hr)⟩

theorem step (h : Paired cx f keys s) (hl : cx.Plans shape l) :
    Paired cx f (keys ++ [l.key]) (s.step l).2.1 := by
  rcases Nat.lt_or_ge 2 l.min with hlong | hshort
  · obtain ⟨hsound, -⟩ := step_spec h.sound hl.fits
    obtain ⟨-, hlists⟩ := s.step_of_long hlong
    rw [hlists] at hsound ⊢
    exact (h.pair hl).push hsound
  · rw [(s.step_of_short hshort).2]
    exact h.pair hl

/-- The pair of a list is at hand when its step is made. -/
theorem asAlone (h : Paired cx f keys s) (hl : cx.Plans shape l) :
    ∃ last, (s.step l).2.1.pairs.get? l.key = some (last, last + 1) ∧
      AsAlone l last (s.step l).1 (s.step l).2.1.rules := by
  obtain ⟨-, -, hget⟩ := pair_spec h.sound hl.fits
  obtain ⟨hadjacent, hrules⟩ := (h.pair hl).found shape l _ hl hget
  have hpair : (s.pair l).1 = ((s.pair l).1.1, (s.pair l).1.1 + 1) := Prod.ext rfl hadjacent
  refine ⟨(s.pair l).1.1, ?_, asAlone_step l hpair hrules⟩
  rw [← hpair, pairs_step]
  exact hget

end Paired

/-! ## Runs -/

/-- The steps of some lists, and the rules after them. -/
def steps (s : ListRules) : List ListPlan → List Step × ListRules
  | [] => ([], s)
  | l :: rest =>
    let (st, s, _) := s.step l
    let (sts, s) := s.steps rest
    (st :: sts, s)

/-- The lists so far share pairs, and none of them can tell. -/
structure Shared (cx : Context) (f : RuleId) (uses : List (ListPlan × Step)) (s : ListRules) :
    Prop where
  paired : Paired cx f (uses.map (·.1.key)) s
  alone : ∀ use ∈ uses, ∃ last, s.pairs.get? use.1.key = some (last, last + 1) ∧
    AsAlone use.1 last use.2 s.rules
  bare : ∀ r ∈ s.rules, r.bare = r

namespace Shared

variable {uses : List (ListPlan × Step)}

theorem startingAt (cx : Context) (f : RuleId) : Shared cx f [] (startingAt f) :=
  ⟨.startingAt cx f, nofun, nofun⟩

theorem step (h : Shared cx f uses s) (hl : cx.Plans shape l) :
    Shared cx f (uses ++ [(l, (s.step l).1)]) (s.step l).2.1 := by
  have hext := s.extends_step l
  refine ⟨?_, fun use huse => ?_, ?_⟩
  · rw [List.map_append]
    exact h.paired.step hl
  · rcases List.mem_append.mp huse with huse | huse
    · obtain ⟨last, hget, halone⟩ := h.alone use huse
      exact ⟨last, hext.pairs _ _ hget, halone.mono hext.rules.subset⟩
    · rw [List.mem_singleton.mp huse]
      exact h.paired.asAlone hl
  · exact forall_mem_step h.bare (fun _ => rfl) (fun _ _ _ => rfl) (fun _ _ _ _ => rfl)

theorem steps (h : Shared cx f uses s) {shapes : List (Shape Kind)} {plans : List ListPlan}
    (hplans : List.Forall₂ cx.Plans shapes plans) :
    Shared cx f (uses ++ plans.zip (s.steps plans).1) (s.steps plans).2 := by
  induction hplans generalizing uses s with
  | nil =>
    rw [List.zip_nil_left, List.append_nil]
    exact h
  | cons hl _ ih =>
    rw [ListRules.steps, List.zip_cons_cons, List.append_cons]
    exact ih (h.step hl)

end Shared

/-- The rules that some lists share, numbered from `f` on. There is one pair for every key
that a list has, and every list is served by the pair of its key as if it were alone. -/
structure Shares (f : RuleId) (uses : List (ListPlan × Step)) (rules : List Rule) : Prop where
  ids : rules.map (·.id) = List.range' f rules.length
  pairs : ∃ pairAt : ListKey → RuleId,
    idsFrom rules .listLast = (uses.map (·.1.key)).eraseDups.map pairAt ∧
    idsFrom rules .listMore = (uses.map (·.1.key)).eraseDups.map (pairAt · + 1) ∧
    ∀ use ∈ uses, AsAlone use.1 (pairAt use.1.key) use.2 rules

theorem Sound.map_id (h : s.Sound cx f) : s.rules.map (·.id) = List.range' f s.rules.length := by
  refine List.ext_getElem? fun i => ?_
  rw [List.getElem?_map]
  rcases Nat.lt_or_ge i s.rules.length with hi | hi
  · rw [List.getElem?_eq_getElem hi, Option.map_some, h.id_eq i _ (List.getElem?_eq_getElem hi),
      List.getElem?_range' hi, Nat.one_mul]
  · rw [List.getElem?_eq_none hi, List.getElem?_eq_none (by rw [List.length_range']; exact hi)]
    rfl

theorem Shared.shares {uses : List (ListPlan × Step)} (h : Shared cx f uses s) :
    Shares f uses s.rules := by
  have hproper : s.pairs.Proper := by
    rw [Assoc.Proper, h.paired.keys_eq]
    exact nodup_eraseDups _
  let pairAt : ListKey → RuleId := fun key => ((s.pairs.get? key).getD (0, 0)).1
  have hpairs := Assoc.eq_map_get? hproper (0, 0)
  rw [h.paired.keys_eq] at hpairs
  refine ⟨h.paired.sound.map_id, pairAt, ?_, ?_, fun use huse => ?_⟩
  · rw [h.paired.lasts, hpairs, List.map_map]
    rfl
  · rw [h.paired.mores, hpairs, List.map_map]
    rfl
  · obtain ⟨last, hget, halone⟩ := h.alone use huse
    have hlast : pairAt use.1.key = last := by
      show ((s.pairs.get? use.1.key).getD (0, 0)).1 = last
      rw [hget]
      rfl
    rw [hlast]
    exact halone

end ListRules

open ListRules

/-- The plans are those of the list parameters in use, with the steps that these became. -/
def Planned (cx : Context) (uses : List (Param Kind × Step)) (planned : List (ListPlan × Step)) :
    Prop :=
  List.Forall₂ (fun use plan => cx.Plans use.1.shape plan.1 ∧ plan.2 = use.2) (listUses uses)
    planned

/-- Compiling a declaration shares the pairs of all its lists. -/
theorem Parts.Made.shared {p : Parts} {options : Options} {tokens : TokenTable} {d : Declaration}
    (hp : p.Made options tokens d) : ∃ planned,
      Planned (p.context tokens d) (p.declared.flatMap (·.uses d.rules)) planned ∧
      Shared (p.context tokens d) (tokens.size + p.numbering.variants.length) planned p.lists := by
  refine Context.rules_trace (P := fun uses s => ∃ planned,
    Planned (p.context tokens d) uses planned ∧
      Shared (p.context tokens d) (tokens.size + p.numbering.variants.length) planned s)
    (fun dcl _ q _ uses s s' st h hstep => ?_) ⟨[], .nil, .startingAt _ _⟩ hp.rules_eq
  obtain ⟨planned, hplanned, hshared⟩ := h
  unfold Planned
  rw [listUses_concat]
  cases hq : q.shape.isList with
  | true =>
    obtain ⟨l, hl, rfl, rfl⟩ := Context.exists_plan_of_list hq hstep
    refine ⟨planned ++ [(l, (s.step l).1)], ?_, hshared.step hl⟩
    exact List.rel_append hplanned (.cons ⟨hl, rfl⟩ .nil)
  | false =>
    refine ⟨planned, ?_, ?_⟩
    · rw [if_neg (by simp), List.append_nil]
      exact hplanned
    · rcases Context.step_lists hstep with rfl | ⟨el, cap, min, δ, l, hshape, -, -⟩
      · exact hshared
      · rw [hshape] at hq
        cases hq

theorem map_bare_settledRules (first : RuleId) (eos : TokenId) (rules : List Rule) :
    (settledRules first eos rules).map Rule.bare = rules.map Rule.bare := by
  refine List.ext_getElem? fun i => ?_
  rw [List.getElem?_map, List.getElem?_map, getElem?_settledRules, Option.map_map]
  rfl

/-- Rules that learned their tokens come from where they came from before. -/
theorem forall_origin {P : Origin → Prop} {rules rules' : List Rule}
    (h : rules.map Rule.bare = rules'.map Rule.bare) (hP : ∀ r ∈ rules', P r.origin) :
    ∀ r ∈ rules, P r.origin := by
  intro r hr
  obtain ⟨r', hr', heq⟩ := List.mem_map.mp (h ▸ List.mem_map_of_mem hr)
  have horigin : r'.bare.origin = r.bare.origin := by rw [heq]
  exact horigin ▸ hP r' hr'

/-- **Shared pairs.** However many lists are compiled together, in whatever order, their rules
are numbered without gaps, there is one pair for every element, rank cap and delimiter, and
every list is served as if it were compiled alone. So it is for the lists of a compiled
grammar, whose rules come right behind the declared ones. -/
theorem lists_compile_as_alone :
    (∀ (cx : Context) (f : RuleId) (shapes : List (Shape Kind)) (plans : List ListPlan),
      List.Forall₂ cx.Plans shapes plans →
      Shares f (plans.zip ((startingAt f).steps plans).1) ((startingAt f).steps plans).2.rules) ∧
    ∀ (options : Options) (tokens : TokenTable) (d : Declaration) (start : String) (g : Grammar),
      (compile options tokens d start).outcome = .ok g →
      ∃ declared lists planned, g.rules = declared ++ lists ∧
        (∀ r ∈ declared, r.origin.isSynthetic = false) ∧
        (∀ r ∈ lists, r.origin.isSynthetic = true) ∧
        Planned g.context (g.uses d) planned ∧
        Shares (tokens.size + declared.length) planned (lists.map Rule.bare) := by
  refine ⟨fun cx f shapes plans hplans => ?_, fun options tokens d start g h => ?_⟩
  · have hshared := (Shared.startingAt cx f).steps hplans
    rw [List.nil_append] at hshared
    exact hshared.shares
  · obtain ⟨p, hp, -, -, -, hg⟩ := compile_made h
    obtain ⟨planned, hplanned, hshared⟩ := hp.shared
    have hrules : g.rules = settledRules tokens.size g.endOfStream p.rules :=
      congrArg Grammar.rules hg
    have hcx : g.context = p.context tokens d := by
      rw [hg]
      rfl
    have huses : g.uses d = p.declared.flatMap (·.uses d.rules) := by
      rw [Grammar.uses, hrules, hp.uses_settledRules]
    have hbare : g.rules.map Rule.bare = p.declared.map Rule.bare ++ p.lists.rules.map Rule.bare := by
      rw [hrules, map_bare_settledRules, Parts.rules, List.map_append]
    obtain ⟨declared, lists, hsplit, hdeclared, hlists⟩ := List.map_eq_append_iff.mp hbare
    refine ⟨declared, lists, planned, hsplit, ?_, ?_, ?_, ?_⟩
    · exact forall_origin (P := (·.isSynthetic = false)) hdeclared hp.declared_not_synthetic
    · exact forall_origin (P := (·.isSynthetic = true)) hlists hp.lists_synthetic
    · rw [hcx, huses]
      exact hplanned
    · have hlength : declared.length = p.numbering.variants.length := by
        rw [← hp.good.length_declared]
        simpa using congrArg List.length hdeclared
      have hsame : lists.map Rule.bare = p.lists.rules := by
        rw [hlists]
        exact (List.map_congr_left hshared.bare).trans (List.map_id _)
      rw [hlength, hsame]
      exact hshared.shares

/-- A rule with four lists of items, the third of which has commas after its items. -/
def fourLists : Declaration where
  kinds := ⟨["lists", "item"]⟩
  rules := [⟨"item", 1, 0, [⟨"word", .terminal [1] false⟩]⟩,
    ⟨"lists", 0, 0, [⟨"some", .list 1 none 1 (some (.separator 2))⟩,
      ⟨"two", .list 1 none 2 (some (.separator 2))⟩,
      ⟨"ended", .list 1 none 1 (some (.terminator 2))⟩,
      ⟨"four", .list 1 none 4 (some (.separator 2))⟩]⟩]

/-- Lists with commas between their items share a pair, whatever their minimum, and the last
of the four has a rule for its leading items behind both pairs. -/
theorem lists_of_fourLists :
    (∃ plans, List.Forall₂ enumerationGrammar.context.Plans
        [.list 1 none 1 (some (.separator 2)), .list 1 none 4 (some (.separator 2))] plans ∧
      Shares 5 (plans.zip ((startingAt 5).steps plans).1) ((startingAt 5).steps plans).2.rules) ∧
    ∃ g, (compile .default enumerationTokens fourLists "lists").outcome = .ok g ∧
      g.rules.map (·.origin) = [.declared "item" 0, .declared "lists" 1, .listLast, .listMore,
        .listLast, .listMore, .listLeading] ∧
      ∃ declared lists planned, g.rules = declared ++ lists ∧
        Planned g.context (g.uses fourLists) planned ∧
        Shares (3 + declared.length) planned (lists.map Rule.bare) := by
  obtain ⟨hruns, hcompiled⟩ := lists_compile_as_alone
  constructor
  · have hplan : ∀ min, enumerationGrammar.context.listPlan "enumeration" "items" 1 none min
        (some (.separator 2)) =
          .ok ⟨⟨1, none, some (.separator 2)⟩, ⟨1, 0⟩, [4], some [2], min⟩ := fun min => by cbv
    have hplans : List.Forall₂ enumerationGrammar.context.Plans
        [.list 1 none 1 (some (.separator 2)), .list 1 none 4 (some (.separator 2))] _ :=
      .cons (.list (hplan 1)) (.cons (.list (hplan 4)) .nil)
    exact ⟨_, hplans, hruns _ 5 _ _ hplans⟩
  · have heval : (compile .default enumerationTokens fourLists "lists").outcome.map
        (·.rules.map (·.origin)) = .ok [.declared "item" 0, .declared "lists" 1, .listLast,
          .listMore, .listLast, .listMore, .listLeading] := by cbv
    cases h : (compile .default enumerationTokens fourLists "lists").outcome with
    | error e =>
      rw [h] at heval
      cases heval
    | ok g =>
      rw [h] at heval
      obtain ⟨declared, lists, planned, hsplit, -, -, hplanned, hshares⟩ := hcompiled _ _ _ _ _ h
      exact ⟨g, rfl, Except.ok.inj heval, declared, lists, planned, hsplit, hplanned, hshares⟩

end Compile
end GrammarKit
