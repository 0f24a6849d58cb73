import GrammarKit.Proofs.Compile.Grammar
import GrammarKit.Proofs.Compile.ListWords

/-!
# Compilation preserves the language

`words_iff_generates`: for every kind and every rank cap, the compiled rules of
the kind derive exactly the words that the declaration generates.

* From rules to words: `Meant` says of every rule what its words have to be, a
  variant's by its declaration, a list rule's by the list. The rules respect
  these meanings (`closed_meant`), so derivations do.
* From words to rules: induction on how a word is generated
  (`derived_of_generates`). Which optional parameters are present makes up the
  bits of the variant, from the last parameter to the first.
-/
namespace GrammarKit.Compile

namespace Parts.Good

variable {p : Parts} {tokens : TokenTable} {d : Declaration}

/-- Every way to keep parameters of a rule is a variant that the index lists. -/
theorem exists_rule_of_kept (hp : p.Good tokens d) {r : RuleDecl} (hr : r ∈ d.rules)
    {cap : Option Nat} (hcap : ∀ c ∈ cap, r.rank ≤ c) {kept : Nat}
    (hkept : kept < 2 ^ r.optionalCount) :
    ∃ rule ∈ p.rules, rule.id ∈ (p.numbering.ranks.rulesOfKind? r.produces cap).getD [] ∧
      LowersAll (p.context tokens d) p.lists kept r.params rule.steps := by
  obtain ⟨i, hi⟩ := List.getElem?_of_mem hr
  have hv : (⟨i, kept⟩ : Variant) ∈ p.numbering.variants :=
    (hp.numbered.mem_variants _).mpr ⟨i, r, hi, (Nat.zero_add i).symm, hkept⟩
  obtain ⟨j, hj⟩ := List.getElem?_of_mem hv
  obtain ⟨r', rule, hr', hrule, hid, hall⟩ := hp.implements.rule_of_variant j _ hj
  have heq : r' = r := by
    rw [hi] at hr'
    exact (Option.some.inj hr').symm
  subst heq
  refine ⟨rule, List.mem_append_left _ (List.mem_of_getElem? hrule), ?_, hall⟩
  refine (RankIndex.mem_rulesOfKind_iff hp.numbered.valid).mpr ⟨r'.rank, hcap, ?_⟩
  exact (hp.numbered.mem_rulesAt _ _).mpr
    (Or.inr ⟨j, _, i, r', hj, hid, hi, (Nat.zero_add i).symm, rfl⟩)

end Parts.Good

/-! ## From rules to words -/

/-- What the words of a rule have to be, by what the rule is for. -/
structure Meant (p : Parts) (tokens : TokenTable) (d : Declaration) (q : RuleId)
    (w : List TokenId) : Prop where
  variant : ∀ j v r, p.numbering.variants[j]? = some v → q = tokens.size + j →
    d.rules[v.decl]? = some r → Generates tokens d (.params r.params) w
  last : ∀ l : ListPlan, l.Fits (p.context tokens d) → p.lists.Has q l.lastSteps →
    ListOf tokens l.key.delimiter (Generates tokens d (.kind l.key.element l.key.maxRank)) 1 w
  more : ∀ (l : ListPlan) last, l.Fits (p.context tokens d) →
    p.lists.pairs.get? l.key = some (last, q) →
    ListOf tokens l.key.delimiter (Generates tokens d (.kind l.key.element l.key.maxRank)) 2 w
  leading : ∀ (l : ListPlan) last more, l.Fits (p.context tokens d) →
    p.lists.pairs.get? l.key = some (last, more) → 3 ≤ l.min →
    p.lists.Has q (l.leadingSteps last more) →
    ListOf tokens l.key.delimiter (Generates tokens d (.kind l.key.element l.key.maxRank)) l.min w

section Soundness

variable {p : Parts} {tokens : TokenTable} {d : Declaration} {w : List TokenId}

theorem generates_of_meant (hp : p.Good tokens d) {k : Kind} {cap : Option Nat} {q : RuleId}
    (hq : q ∈ (p.numbering.ranks.rulesOfKind? k cap).getD []) (hw : Meant p tokens d q w) :
    Generates tokens d (.kind k cap) w := by
  obtain ⟨j, v, r, hj, hid, hr, rfl, hcap⟩ := hp.exists_variant hq
  exact .rule (List.mem_of_getElem? hr) hcap (hw.variant j v r hj hid hr)

/-- The elements of a list have words of their kind. -/
theorem generates_of_item (hp : p.Good tokens d) {l : ListPlan} (hl : l.Fits (p.context tokens d))
    (u : List TokenId) (hu : l.Item (Meant p tokens d) u) :
    Generates tokens d (.kind l.key.element l.key.maxRank) u := by
  obtain ⟨q, hq, hu⟩ := hu
  exact generates_of_meant hp ((RankIndex.mem_getD_iff hl.items_eq).mpr hq) hu

theorem listOf_of_pair (hp : p.Good tokens d) {l : ListPlan} (hl : l.Fits (p.context tokens d))
    {last more : RuleId} (hpair : p.lists.pairs.get? l.key = some (last, more))
    (w : List TokenId) (h : Meant p tokens d last w ∨ Meant p tokens d more w) :
    ListOf tokens l.key.delimiter (Generates tokens d (.kind l.key.element l.key.maxRank)) 1 w := by
  rcases h with h | h
  · obtain ⟨l', hl', hkey, hlast, -⟩ := hp.sound.paired _ _ _ hpair
    rw [hl'.lastSteps_eq_of_key hl hkey] at hlast
    exact h.last l hl hlast
  · exact (h.more l last hl hpair).weaken (by omega)

theorem generates_of_lowers (hp : p.Good tokens d) {shape : Shape Kind} {st : Step}
    (hl : Lowers (p.context tokens d) p.lists shape st) (hw : st.Reads (Meant p tokens d) w) :
    Generates tokens d (.shape shape) w := by
  cases hl with
  | terminal _ =>
    obtain ⟨c, hc, rfl⟩ := hw
    obtain ⟨t, ht, hstand⟩ := TokenTable.mem_withDescendants_substitutes_iff.mp hc
    exact .terminal ht hstand
  | @nonTerminal k cap _ rules hrules _ =>
    obtain ⟨q, hq, hw⟩ := hw
    exact .nonTerminal (generates_of_meant hp ((RankIndex.mem_getD_iff hrules).mpr hq) hw)
  | @list l _ hl hst =>
    have hlist : ListOf tokens l.key.delimiter
        (Generates tokens d (.kind l.key.element l.key.maxRank)) l.min w := by
      cases hst with
      | @any last more hpair hmin =>
        obtain ⟨q, hq, hw⟩ := hw
        refine (listOf_of_pair hp hl hpair w ?_).weaken hmin
        rcases List.mem_cons.mp hq with rfl | hq
        · exact Or.inl hw
        · rw [List.mem_singleton.mp hq] at hw
          exact Or.inr hw
      | @two last more hpair hmin =>
        obtain ⟨q, hq, hw⟩ := hw
        rw [List.mem_singleton.mp hq] at hw
        rw [hmin]
        exact hw.more l last hl hpair
      | @many last more id hpair hmin hhas =>
        obtain ⟨q, hq, hw⟩ := hw
        rw [List.mem_singleton.mp hq] at hw
        exact hw.leading l last more hl hpair hmin hhas
    obtain ⟨us, hn, hus, hj⟩ := hlist
    exact .list hn hus hj

theorem generates_of_lowersAll (hp : p.Good tokens d) {kept : Nat} {ps : List (Param Kind)}
    {sts : List Step} (hl : LowersAll (p.context tokens d) p.lists kept ps sts)
    (hw : Spells (Step.Reads (Meant p tokens d)) sts w) : Generates tokens d (.params ps) w := by
  induction hl generalizing w with
  | nil =>
    cases hw
    exact .none
  | required _ hst _ ih =>
    obtain ⟨u, v, rfl, hu, hv⟩ := hw
    exact .present (generates_of_lowers hp hst hu) (ih hv)
  | present _ _ hst _ ih =>
    obtain ⟨u, v, rfl, hu, hv⟩ := hw
    exact .present (generates_of_lowers hp hst hu) (ih hv)
  | omitted ho _ _ ih => exact .omitted ho (ih hw)

/-- The rules respect what their words have to be. -/
theorem closed_meant (hp : p.Good tokens d) : WordClosed p.rules (Meant p tokens d) := by
  intro r hr w hw
  have hsame : ∀ {q steps}, q = r.id → p.lists.Has q steps → r.steps = steps := by
    intro q steps hq hhas
    obtain ⟨r', hr', hid, rfl⟩ := hhas
    rw [hp.linked.eq_of_id_eq hr (List.mem_append_right _ hr') (by rw [hid, hq])]
  have hsub : (p.context tokens d).substitutes = tokens.substitutes := rfl
  refine ⟨?_, ?_, ?_, ?_⟩
  · intro j v dcl hj hid hdcl
    obtain ⟨dcl', r', hdcl', hr', hid', hall⟩ := hp.implements.rule_of_variant j v hj
    have hrule : r = r' := hp.linked.eq_of_id_eq hr
      (List.mem_append_left _ (List.mem_of_getElem? hr')) (by rw [hid, hid'])
    rw [hdcl] at hdcl'
    cases hdcl'
    subst hrule
    exact generates_of_lowersAll hp hall hw
  · intro l hl hhas
    rw [hsame rfl hhas] at hw
    exact ListPlan.listOf_of_lastSteps hl hsub (generates_of_item hp hl) hw
  · intro l last hl hpair
    obtain ⟨l', hl', hkey, -, hmore⟩ := hp.sound.paired _ _ _ hpair
    rw [hl'.moreSteps_eq_of_key hl hkey] at hmore
    rw [hsame rfl hmore, ListPlan.moreSteps_eq] at hw
    exact ListPlan.listOf_of_spells hl hsub (generates_of_item hp hl)
      (listOf_of_pair hp hl hpair) hw
  · intro l last more hl hpair hmin hhas
    rw [hsame rfl hhas, ListPlan.leadingSteps_eq] at hw
    have hlist := ListPlan.listOf_of_spells hl hsub (generates_of_item hp hl)
      (listOf_of_pair hp hl hpair) hw
    rwa [show l.min - 1 + 1 = l.min by omega] at hlist

end Soundness

/-! ## From words to rules -/

/-- Number of parameters that may be left out. -/
def optionals (ps : List (Param Kind)) : Nat := (ps.filter (·.shape.isOptional)).length

/-- The compiled rules derive what a goal asks for. -/
def Derived (p : Parts) (tokens : TokenTable) (d : Declaration) : Goal → List TokenId → Prop
  | .kind k cap, w =>
    ∃ q ∈ (p.numbering.ranks.rulesOfKind? k cap).getD [], Words p.rules q w
  | .params ps, w => ∃ kept < 2 ^ optionals ps, ∀ sts,
    LowersAll (p.context tokens d) p.lists kept ps sts →
      Spells (Step.Reads (Words p.rules)) sts w
  | .shape s, w => (s.isOptional = true ∧ w = []) ∨
    ∀ st, Lowers (p.context tokens d) p.lists s st → st.Reads (Words p.rules) w

section Completeness

variable {p : Parts} {tokens : TokenTable} {d : Declaration} {w : List TokenId}

theorem words_of_has {q : RuleId} {steps : List Step} (hhas : p.lists.Has q steps)
    (hw : Spells (Step.Reads (Words p.rules)) steps w) : Words p.rules q w := by
  obtain ⟨r, hr, rfl, rfl⟩ := hhas
  exact closed_words p.rules r (List.mem_append_right _ hr) w hw

/-- A list that is not empty is read by the step that stands for it. -/
theorem reads_of_listOf (hp : p.Good tokens d) {l : ListPlan} {st : Step}
    (hl : l.Fits (p.context tokens d)) (hst : p.lists.ListStep l st) {n : Nat}
    (hw : ListOf tokens l.key.delimiter (l.Item (Words p.rules)) n w) (h1 : 1 ≤ n)
    (hmin : l.min ≤ n) : st.Reads (Words p.rules) w := by
  have hsub : (p.context tokens d).substitutes = tokens.substitutes := rfl
  have hpairs : ∀ {last more}, p.lists.pairs.get? l.key = some (last, more) →
      p.lists.Has last l.lastSteps ∧ p.lists.Has more (l.moreSteps last more) := by
    intro last more hpair
    obtain ⟨l', hl', hkey, hlast, hmore⟩ := hp.sound.paired _ _ _ hpair
    rw [hl'.lastSteps_eq_of_key hl hkey] at hlast
    rw [hl'.moreSteps_eq_of_key hl hkey] at hmore
    exact ⟨hlast, hmore⟩
  have hread : ∀ {last more}, p.lists.pairs.get? l.key = some (last, more) → ∀ v,
      ListOf tokens l.key.delimiter (l.Item (Words p.rules)) 1 v →
        Words p.rules last v ∨ Words p.rules more v := by
    intro last more hpair v hv
    obtain ⟨hlast, hmore⟩ := hpairs hpair
    exact ListPlan.pair_reads_of_listOf hl hsub (fun _ hu => hu) (fun _ h => words_of_has hlast h)
      (fun _ h => words_of_has hmore h) hv
  cases hst with
  | @any last more hpair _ =>
    rcases hread hpair w (hw.weaken h1) with h | h
    · exact ⟨last, List.mem_cons_self, h⟩
    · exact ⟨more, List.mem_cons_of_mem _ List.mem_cons_self, h⟩
  | @two last more hpair h2 =>
    refine ⟨more, List.mem_cons_self, words_of_has (hpairs hpair).2 ?_⟩
    rw [ListPlan.moreSteps_eq]
    exact ListPlan.spells_of_listOf hl hsub (fun _ hu => hu) (hread hpair) (hw.weaken (by omega))
  | @many last more id hpair h3 hhas =>
    refine ⟨id, List.mem_cons_self, words_of_has hhas ?_⟩
    rw [ListPlan.leadingSteps_eq]
    exact ListPlan.spells_of_listOf hl hsub (fun _ hu => hu) (hread hpair) (hw.weaken (by omega))

/-- Leaving out an optional parameter is one more bit, not set. -/
theorem derived_omitted {q : Param Kind} {ps : List (Param Kind)} (ho : q.shape.isOptional = true)
    (h : Derived p tokens d (.params ps) w) : Derived p tokens d (.params (q :: ps)) w := by
  obtain ⟨kept, hkept, hall⟩ := h
  refine ⟨2 * kept, ?_, ?_⟩
  · have : optionals (q :: ps) = optionals ps + 1 := by simp [optionals, ho]
    rw [this, Nat.pow_succ]
    omega
  · intro sts hsts
    cases hsts with
    | required ho' _ _ => rw [ho] at ho'; cases ho'
    | present _ hbit _ _ => omega
    | omitted _ _ hrest =>
      rw [show 2 * kept / 2 = kept by omega] at hrest
      exact hall sts hrest

/-- Keeping an optional parameter is one more bit, set. -/
theorem derived_present {q : Param Kind} {ps : List (Param Kind)} {u v : List TokenId}
    (hu : ∀ st, Lowers (p.context tokens d) p.lists q.shape st → st.Reads (Words p.rules) u)
    (h : Derived p tokens d (.params ps) v) : Derived p tokens d (.params (q :: ps)) (u ++ v) := by
  obtain ⟨kept, hkept, hall⟩ := h
  cases ho : q.shape.isOptional with
  | false =>
    refine ⟨kept, ?_, ?_⟩
    · have : optionals (q :: ps) = optionals ps := by simp [optionals, ho]
      rwa [this]
    · intro sts hsts
      cases hsts with
      | required _ hst hrest => exact ⟨u, v, rfl, hu _ hst, hall _ hrest⟩
      | present ho' _ _ _ => rw [ho] at ho'; cases ho'
      | omitted ho' _ _ => rw [ho] at ho'; cases ho'
  | true =>
    refine ⟨2 * kept + 1, ?_, ?_⟩
    · have : optionals (q :: ps) = optionals ps + 1 := by simp [optionals, ho]
      rw [this, Nat.pow_succ]
      omega
    · intro sts hsts
      cases hsts with
      | required ho' _ _ => rw [ho] at ho'; cases ho'
      | present _ _ hst hrest =>
        rw [show (2 * kept + 1) / 2 = kept by omega] at hrest
        exact ⟨u, v, rfl, hu _ hst, hall _ hrest⟩
      | omitted _ hbit _ => omega

/-- What the declaration generates, the compiled rules derive. -/
theorem derived_of_generates (hp : p.Good tokens d) {goal : Goal}
    (h : Generates tokens d goal w) : Derived p tokens d goal w := by
  induction h with
  | rule hr hcap _ ih =>
    obtain ⟨kept, hkept, hall⟩ := ih
    obtain ⟨rule, hrule, hmem, hlow⟩ := hp.exists_rule_of_kept hr hcap hkept
    exact ⟨rule.id, hmem, closed_words p.rules rule hrule _ (hall _ hlow)⟩
  | none =>
    refine ⟨0, Nat.one_pos, ?_⟩
    intro sts hsts
    cases hsts
    rfl
  | present _ _ ihu ihv =>
    rcases ihu with ⟨ho, rfl⟩ | hu
    · exact derived_omitted ho ihv
    · exact derived_present hu ihv
  | omitted ho _ ih => exact derived_omitted ho ih
  | terminal ht hstand =>
    refine Or.inr ?_
    intro st hst
    cases hst with
    | terminal _ =>
      exact ⟨_, TokenTable.mem_withDescendants_substitutes_iff.mpr ⟨_, ht, hstand⟩, rfl⟩
  | @nonTerminal k cap _ _ _ ih =>
    refine Or.inr ?_
    intro st hst
    obtain ⟨q, hq, hw⟩ := ih
    cases hst with
    | @nonTerminal _ _ _ rules hrules _ => exact ⟨q, (RankIndex.mem_getD_iff hrules).mp hq, hw⟩
  | @list k cap min delimiter us w hmin _ hj ih =>
    cases us with
    | nil => exact Or.inl ⟨by simpa [Shape.isOptional] using hmin, hj⟩
    | cons u us =>
      refine Or.inr ?_
      intro st hst
      cases hst with
      | @list l _ hl hst =>
        refine reads_of_listOf hp hl hst ⟨u :: us, Nat.le_refl _, ?_, hj⟩ (by simp) hmin
        intro v hv
        obtain ⟨q, hq, hw⟩ := ih v hv
        exact ⟨q, (RankIndex.mem_getD_iff hl.items_eq).mp hq, hw⟩

end Completeness

/-- **Compilation preserves the language.** For every kind and rank cap, the
compiled rules derive exactly the words that the declaration generates. -/
theorem words_iff_generates {options : Options} {tokens : TokenTable} {d : Declaration}
    {start : String} {g : Grammar} (h : (compile options tokens d start).outcome = .ok g)
    (k : Kind) (cap : Option Nat) (w : List TokenId) :
    (∃ q ∈ g.rulesOfKind k cap, Words g.rules q w) ↔ Generates tokens d (.kind k cap) w := by
  obtain ⟨p, hp, hranks, hrules⟩ := compile_ok h
  have hwords : ∀ q, Words g.rules q w ↔ Words p.rules q w := by
    intro q
    rw [hrules]
    exact derives_settledRules_iff
  simp only [Grammar.rulesOfKind, hranks, hwords]
  constructor
  · intro h
    obtain ⟨q, hq, hw⟩ := h
    exact generates_of_meant hp hq (closed_of_derives (closed_meant hp) hw)
  · exact derived_of_generates hp

/-- The compiled rules for enumerations derive two words with a comma between them. -/
theorem words_of_enumeration : ∃ q ∈ enumerationGrammar.rulesOfKind 0 none,
    Words enumerationGrammar.rules q [1, 2, 1] := by
  have hitem : Generates enumerationTokens enumeration (.kind 1 none) [1] :=
    .rule (r := ⟨"item", 1, 0, [⟨"word", .terminal [1] false⟩]⟩) (by decide) (by simp)
      (.present (u := [1]) (.terminal (List.mem_singleton.mpr rfl) .refl) .none)
  have hitems : ∀ u ∈ [[1], [1]], Generates enumerationTokens enumeration (.kind 1 none) u := by
    simpa using hitem
  have hjoined : Joined enumerationTokens (some (.separator 2)) [[1], [1]] [1, 2, 1] :=
    ⟨[2], [1], ⟨2, .refl, rfl⟩, ⟨[], rfl, rfl⟩, rfl⟩
  have hlist : Generates enumerationTokens enumeration
      (.shape (.list 1 none 1 (some (.separator 2)))) [1, 2, 1] :=
    .list (by decide) hitems hjoined
  have hall : Generates enumerationTokens enumeration (.kind 0 none) [1, 2, 1] :=
    .rule (r := ⟨"enumeration", 0, 0, [⟨"items", .list 1 none 1 (some (.separator 2))⟩]⟩)
      (by decide) (by simp) (.present (u := [1, 2, 1]) hlist .none)
  exact (words_iff_generates compile_enumeration 0 none [1, 2, 1]).mpr hall

end GrammarKit.Compile
