import GrammarKit.Proofs.Compile.Starting

/-!
# Ending tokens

A token is an ending token of a rule exactly if it ends the stream or if some
rule of the grammar derives a form in which the token comes right after the rule
(`mem_endingSets_iff`).

That every ending token comes after the rule in some form follows the edges along
which the token came. The other half is an invariant of forms: whatever can stand
in front of what comes after a rule is in the ending set of the rule (`Followed`),
which rewriting keeps as long as the ending sets respect the rules
(`followClosed_endingSets`).
-/
namespace GrammarKit.Compile

open Relation (ReflTransGen)
open Seeds (Adds)

/-! ## What follows a rule in a form -/

/-- In the form, each rule is followed only by tokens that `E` gives it. -/
def Followed (N : RuleId → Prop) (F E : RuleId → TokenId → Prop) (α : Form) : Prop :=
  ∀ before q after, α = before ++ .rule q :: after → ∀ t, Front N F t after → E q t

/-- A family of ending tokens that the rules respect. -/
def FollowClosed (rules : List Rule) (N : RuleId → Prop) (F E : RuleId → TokenId → Prop) : Prop :=
  ∀ r ∈ rules, ∀ before q after, Expands r.steps (before ++ .rule q :: after) →
    (∀ t, Front N F t after → E q t) ∧ (Open N after → ∀ t, E r.id t → E q t)

section Followed

variable {N : RuleId → Prop} {F E : RuleId → TokenId → Prop} {rules : List Rule}

theorem followed_of_rewrites (hN : OpenClosed rules N) (hF : FrontClosed rules N F)
    (hE : FollowClosed rules N F E) {α β : Form} (h : Rewrites rules α β)
    (hα : Followed N F E α) : Followed N F E β := by
  cases h with
  | @intro r body before after hr hb =>
    intro u q v heq t ht
    rw [List.append_assoc, List.append_eq_append_iff] at heq
    rcases heq with ⟨u', rfl, heq⟩ | ⟨v', rfl, heq⟩
    · rw [List.append_eq_append_iff] at heq
      rcases heq with ⟨u'', rfl, rfl⟩ | ⟨v'', rfl, heq⟩
      · -- the rule stands after what was put in
        exact hα (before ++ .rule r.id :: u'') q v (by simp) t ht
      · cases v'' with
        | nil =>
          simp only [List.nil_append] at heq
          subst heq
          exact hα (before ++ [.rule r.id]) q v (by simp) t ht
        | cons x v'' =>
          -- the rule is part of what was put in
          simp only [List.cons_append, List.cons.injEq] at heq
          obtain ⟨rfl, rfl⟩ := heq
          obtain ⟨hfront, hopen⟩ := hE r hr u' q v'' hb
          rcases front_append.mp ht with ht | ⟨ho, ht⟩
          · exact hfront t ht
          · exact hopen ho t (hα before r.id after rfl t ht)
    · cases v' with
      | nil =>
        simp only [List.nil_append] at heq
        cases body with
        | nil =>
          simp only [List.nil_append] at heq
          subst heq
          exact hα (u ++ [.rule r.id]) q v (by simp) t ht
        | cons x body =>
          simp only [List.cons_append, List.cons.injEq] at heq
          obtain ⟨rfl, rfl⟩ := heq
          obtain ⟨hfront, hopen⟩ := hE r hr [] q body hb
          rcases front_append.mp ht with ht | ⟨ho, ht⟩
          · exact hfront t ht
          · exact hopen ho t (hα u r.id after (by simp) t ht)
      | cons x v' =>
        -- the rule stands before what was put in
        simp only [List.cons_append, List.cons.injEq] at heq
        obtain ⟨rfl, rfl⟩ := heq
        refine hα u q (v' ++ .rule r.id :: after) (by simp) t ?_
        have hrw := Rewrites.intro v' after hr hb
        rw [← List.append_assoc] at ht
        exact front_of_rewrites hN hF hrw ht

theorem followed_of_derives (hN : OpenClosed rules N) (hF : FrontClosed rules N F)
    (hE : FollowClosed rules N F E) {α β : Form} (h : Derives rules α β)
    (hα : Followed N F E α) : Followed N F E β := by
  induction h with
  | refl => exact hα
  | tail _ hs ih => exact followed_of_rewrites hN hF hE hs ih

/-- Nothing follows a rule that stands alone. -/
theorem followed_singleton (q : RuleId) : Followed N F E [.rule q] := by
  intro before q' after heq t ht
  cases before with
  | nil =>
    simp only [List.nil_append, List.cons.injEq] at heq
    obtain ⟨-, rfl⟩ := heq
    exact ht.elim
  | cons x before =>
    simp only [List.cons_append, List.cons.injEq] at heq
    obtain ⟨-, heq⟩ := heq
    simp at heq

end Followed

/-! ## The seeds -/

/-- The steps have a choice between the rules `rs`, with the steps `post` after it. -/
inductive Occurs : List Step → List RuleId → List Step → Prop where
  | head (rs : List RuleId) (post : List Step) : Occurs (.nonTerminal rs :: post) rs post
  | tail {s : Step} {steps : List Step} {rs : List RuleId} {post : List Step} :
      Occurs steps rs post → Occurs (s :: steps) rs post

theorem occurs_cons {s : Step} {steps : List Step} {rs : List RuleId} {post : List Step} :
    Occurs (s :: steps) rs post ↔ (s = .nonTerminal rs ∧ post = steps) ∨ Occurs steps rs post := by
  constructor
  · intro h
    cases h with
    | head => exact Or.inl ⟨rfl, rfl⟩
    | tail h => exact Or.inr h
  · intro h
    rcases h with ⟨rfl, rfl⟩ | h
    · exact .head _ _
    · exact .tail h

theorem Occurs.exists_split {steps : List Step} {rs : List RuleId} {post : List Step}
    (h : Occurs steps rs post) : ∃ pre, steps = pre ++ .nonTerminal rs :: post := by
  induction h with
  | head rs post => exact ⟨[], rfl⟩
  | @tail s _ _ _ _ ih =>
    obtain ⟨pre, rfl⟩ := ih
    exact ⟨s :: pre, rfl⟩

/-- A rule in an expansion stands for a choice, and what comes after it expands
the steps after the choice. -/
theorem exists_occurs_of_expands {steps : List Step} {before after : Form} {q : RuleId}
    (h : Expands steps (before ++ .rule q :: after)) :
    ∃ rs post, Occurs steps rs post ∧ q ∈ rs ∧ Expands post after := by
  induction before generalizing steps with
  | nil =>
    cases h with
    | @cons s _ steps _ hx h =>
      cases s with
      | terminal ts => simp at hx
      | nonTerminal rs => exact ⟨rs, steps, .head _ _, by simpa using hx, h⟩
  | cons x before ih =>
    cases h with
    | cons _ h =>
      obtain ⟨rs, post, ho, hq, hpost⟩ := ih h
      exact ⟨rs, post, .tail ho, hq, hpost⟩

section Seeds

variable {known : Array Bool} {first : RuleId} {starting : Array TokenSet}

theorem mem_foldl_union {rs : List RuleId} {s : TokenSet} {t : TokenId} :
    t ∈ rs.foldl (fun s q => TokenSet.union (starting.getD (q - first) []) s) s ↔
      t ∈ s ∨ ∃ q ∈ rs, t ∈ starting.getD (q - first) [] := by
  induction rs generalizing s with
  | nil => simp
  | cons q rs ih =>
    rw [List.foldl_cons, ih, TokenSet.mem_union]
    simp only [List.mem_cons, exists_eq_or_imp]
    rw [or_comm (b := t ∈ s), or_assoc]

/-- The tokens that can start some steps come from the steps that lead. -/
theorem mem_startOf {steps : List Step} {t : TokenId} :
    t ∈ (startOf known first starting steps).1 ↔
      ∃ s, Leads known first steps s ∧ ((∃ ts, s = .terminal ts ∧ t ∈ ts) ∨
        ∃ rs, s = .nonTerminal rs ∧ ∃ q ∈ rs, t ∈ starting.getD (q - first) []) := by
  induction steps with
  | nil =>
    constructor
    · intro h; cases h
    · intro h
      obtain ⟨s, hs, -⟩ := h
      cases hs
  | cons s steps ih =>
    cases s with
    | terminal ts => simp [startOf, leads_cons, mayBeEmpty]
    | nonTerminal rs =>
      unfold startOf
      simp only
      split
      · rename_i hempty
        simp only [TokenSet.mem_union, mem_foldl_union, ih, leads_cons, hempty, true_and]
        constructor
        · intro h
          rcases h with (h | ⟨q, hq, ht⟩) | ⟨s, hs, hcase⟩
          · cases h
          · exact ⟨_, Or.inl rfl, Or.inr ⟨rs, rfl, q, hq, ht⟩⟩
          · exact ⟨s, Or.inr hs, hcase⟩
        · intro h
          obtain ⟨s, rfl | hs, hcase⟩ := h
          · rcases hcase with ⟨ts, heq, -⟩ | ⟨rs', heq, q, hq, ht⟩
            · cases heq
            · cases heq
              exact Or.inl (Or.inr ⟨q, hq, ht⟩)
          · exact Or.inr ⟨s, hs, hcase⟩
      · rename_i hempty
        simp only [mem_foldl_union, leads_cons, hempty]
        simp

theorem startOf_open_iff {steps : List Step} :
    (startOf known first starting steps).2 = true ↔
      ∀ s ∈ steps, mayBeEmpty known first s = true := by
  induction steps with
  | nil => simp [startOf]
  | cons s steps ih =>
    cases s with
    | terminal ts => simp [startOf, mayBeEmpty]
    | nonTerminal rs =>
      unfold startOf
      simp only
      split
      · rename_i hempty
        simp [ih, hempty]
      · rename_i hempty
        simp [hempty]

/-- The steps put the token after the rule at place `i`. -/
def FollowToken (known : Array Bool) (first : RuleId) (starting : Array TokenSet)
    (steps : List Step) (i : Nat) (t : TokenId) : Prop :=
  ∃ rs post, Occurs steps rs post ∧
    ∃ q ∈ rs, i = q - first ∧ t ∈ (startOf known first starting post).1

/-- The steps can end with the rule at place `j`. -/
def LastPlace (known : Array Bool) (first : RuleId) (starting : Array TokenSet)
    (steps : List Step) (j : Nat) : Prop :=
  ∃ rs post, Occurs steps rs post ∧ (startOf known first starting post).2 = true ∧
    ∃ q ∈ rs, j = q - first

section Follow

variable {steps : List Step} {rs : List RuleId} {t : TokenId} {i : Nat}

theorem followToken_nonTerminal :
    FollowToken known first starting (.nonTerminal rs :: steps) i t ↔
      (∃ q ∈ rs, i = q - first ∧ t ∈ (startOf known first starting steps).1) ∨
        FollowToken known first starting steps i t := by
  simp only [FollowToken, occurs_cons, Step.nonTerminal.injEq]
  constructor
  · intro h
    obtain ⟨rs', post, ⟨rfl, rfl⟩ | ho, hq⟩ := h
    · exact Or.inl hq
    · exact Or.inr ⟨rs', post, ho, hq⟩
  · intro h
    rcases h with hq | ⟨rs', post, ho, hq⟩
    · exact ⟨rs, steps, Or.inl ⟨rfl, rfl⟩, hq⟩
    · exact ⟨rs', post, Or.inr ho, hq⟩

theorem lastPlace_nonTerminal :
    LastPlace known first starting (.nonTerminal rs :: steps) i ↔
      ((startOf known first starting steps).2 = true ∧ ∃ q ∈ rs, i = q - first) ∨
        LastPlace known first starting steps i := by
  simp only [LastPlace, occurs_cons, Step.nonTerminal.injEq]
  constructor
  · intro h
    obtain ⟨rs', post, ⟨rfl, rfl⟩ | ho, hq⟩ := h
    · exact Or.inl hq
    · exact Or.inr ⟨rs', post, ho, hq⟩
  · intro h
    rcases h with hq | ⟨rs', post, ho, hq⟩
    · exact ⟨rs, steps, Or.inl ⟨rfl, rfl⟩, hq⟩
    · exact ⟨rs', post, Or.inr ho, hq⟩

end Follow

/-- What follows a choice between rules follows each of them; if it can vanish,
each can end where the whole ends. -/
theorem adds_follow {n index : Nat} (hindex : index < n) {rs : List RuleId}
    (hrs : ∀ q ∈ rs, q - first < n) (follow : TokenSet) (isOpen : Bool) :
    Adds n (fun s => rs.foldl (fun s q =>
        let s := s.grow (q - first) follow
        if isOpen then s.link index (q - first) else s) s)
      (fun i t => ∃ q ∈ rs, i = q - first ∧ t ∈ follow)
      (fun i j => i = index ∧ isOpen = true ∧ ∃ q ∈ rs, j = q - first) := by
  have hone : ∀ q ∈ rs, Adds n
      (fun s =>
        let s := s.grow (q - first) follow
        if isOpen then s.link index (q - first) else s)
      (fun i t => i = q - first ∧ t ∈ follow)
      (fun i j => i = index ∧ isOpen = true ∧ j = q - first) := by
    intro q hq
    have hgrow := Seeds.adds_grow (hrs q hq) follow
    cases isOpen with
    | true =>
      refine (hgrow.comp (Seeds.adds_link hindex (q - first))).congr ?_ ?_
      · intro i t
        simp
      · intro i j
        simp
    | false =>
      refine hgrow.congr ?_ ?_
      · intro i t
        simp
      · intro i j
        simp
  refine (Seeds.adds_foldl rs hone).congr (fun i t => Iff.rfl) ?_
  intro i j
  constructor
  · intro h
    obtain ⟨q, hq, hi, hopen, hj⟩ := h
    exact ⟨hi, hopen, q, hq, hj⟩
  · intro h
    obtain ⟨hi, hopen, q, hq, hj⟩ := h
    exact ⟨q, hq, hi, hopen, hj⟩

theorem adds_endingSeeds {n index : Nat} (hindex : index < n) {steps : List Step}
    (hsource : ∀ rs, Step.nonTerminal rs ∈ steps → ∀ q ∈ rs, q - first < n) :
    Adds n (fun s => endingSeeds known first starting index s steps)
      (FollowToken known first starting steps)
      (fun i j => i = index ∧ LastPlace known first starting steps j) := by
  induction steps with
  | nil =>
    refine Seeds.adds_nothing.congr ?_ ?_
    · intro i t
      simp only [false_iff]
      intro h
      obtain ⟨rs, post, h, -⟩ := h
      cases h
    · intro i j
      simp only [false_iff]
      intro h
      obtain ⟨-, rs, post, h, -⟩ := h
      cases h
  | cons s steps ih =>
    have ih := ih fun rs hrs => hsource rs (List.mem_cons_of_mem s hrs)
    cases s with
    | terminal ts =>
      refine ih.congr ?_ ?_
      · intro i t
        simp [FollowToken, occurs_cons]
      · intro i j
        simp [LastPlace, occurs_cons]
    | nonTerminal rs =>
      have hfollow := adds_follow hindex (hsource rs List.mem_cons_self)
        (startOf known first starting steps).1 (startOf known first starting steps).2
      refine (hfollow.comp ih).congr ?_ ?_
      · intro i t
        rw [followToken_nonTerminal]
      · intro i j
        rw [lastPlace_nonTerminal, and_or_left]

end Seeds

/-! ## The sets -/

section Sets

variable {known : Array Bool} {first : RuleId} {starting : Array TokenSet} {eos : TokenId}
  {rules : List Rule}

/-- A token comes first into the set of the rule at `i`, from the steps after it. -/
def EndSeed (known : Array Bool) (first : RuleId) (starting : Array TokenSet) (rules : List Rule)
    (i : Nat) (t : TokenId) : Prop :=
  ∃ r ∈ rules, ∃ rs post, Occurs r.steps rs post ∧
    ∃ q ∈ rs, i = q - first ∧ t ∈ (startOf known first starting post).1

/-- The rule at `j` can end where the rule at `i` does. -/
def EndEdge (known : Array Bool) (first : RuleId) (starting : Array TokenSet) (rules : List Rule)
    (i j : Nat) : Prop :=
  ∃ r, rules[i]? = some r ∧ ∃ rs post, Occurs r.steps rs post ∧
    (startOf known first starting post).2 = true ∧ ∃ q ∈ rs, j = q - first

theorem Occurs.mem {steps : List Step} {rs : List RuleId} {post : List Step}
    (h : Occurs steps rs post) : Step.nonTerminal rs ∈ steps := by
  obtain ⟨pre, rfl⟩ := h.exists_split
  exact List.mem_append_right pre List.mem_cons_self

theorem endSeed_iff {i : Nat} {t : TokenId} :
    (∃ (k : Nat) (r : Rule), rules[k]? = some r ∧ FollowToken known first starting r.steps i t) ↔
      EndSeed known first starting rules i t := by
  constructor
  · intro h
    obtain ⟨k, r, hr, h⟩ := h
    exact ⟨r, List.mem_of_getElem? hr, h⟩
  · intro h
    obtain ⟨r, hr, h⟩ := h
    obtain ⟨k, hk⟩ := List.getElem?_of_mem hr
    exact ⟨k, r, hk, h⟩

theorem endEdge_iff {i j : Nat} :
    (∃ (k : Nat) (r : Rule), rules[k]? = some r ∧ i = k ∧ LastPlace known first starting r.steps j) ↔
      EndEdge known first starting rules i j := by
  constructor
  · intro h
    obtain ⟨_, r, hr, rfl, h⟩ := h
    exact ⟨r, hr, h⟩
  · intro h
    obtain ⟨r, hr, h⟩ := h
    exact ⟨i, r, hr, rfl, h⟩

/-- What the pass over the rules adds. -/
theorem adds_endingPass (hl : Linked first rules) :
    Adds rules.length
      (fun s => rules.zipIdx.foldl (fun s (r, k) => endingSeeds known first starting k s r.steps) s)
      (EndSeed known first starting rules) (EndEdge known first starting rules) := by
  have hrule : ∀ k r, rules[k]? = some r →
      Adds rules.length (fun s => endingSeeds known first starting k s r.steps)
        (FollowToken known first starting r.steps)
        (fun i j => i = k ∧ LastPlace known first starting r.steps j) := by
    intro k r hr
    exact adds_endingSeeds (List.getElem?_eq_some_iff.mp hr).1 fun rs hrs q hq =>
      source_lt hl (List.mem_of_getElem? hr) hrs hq
  exact (@Seeds.adds_rules _ (endingSeeds known first starting) _ _ rules hrule).congr
    (fun _ _ => endSeed_iff) (fun _ _ => endEdge_iff)

theorem EndEdge.lt (hl : Linked first rules) (i j : Nat)
    (h : EndEdge known first starting rules i j) : i < rules.length ∧ j < rules.length := by
  obtain ⟨r, hr, rs, post, ho, -, q, hq, rfl⟩ := h
  exact ⟨(List.getElem?_eq_some_iff.mp hr).1, source_lt hl (List.mem_of_getElem? hr) ho.mem hq⟩

theorem ascending_endingSets (hl : Linked first rules) (i : Nat) :
    TokenSet.Ascending ((endingSets known first eos starting rules).1.getD i []) :=
  (adds_endingPass hl).ascending_settle (TokenSet.ascending_singleton eos) (EndEdge.lt hl) i

theorem mem_endingSets_iff_path (hl : Linked first rules) {j : Nat} {t : TokenId} :
    t ∈ (endingSets known first eos starting rules).1.getD j [] ↔
      ∃ i, ReflTransGen (EndEdge known first starting rules) i j ∧
        ((i < rules.length ∧ t = eos) ∨ EndSeed known first starting rules i t) := by
  have hadds : Adds rules.length _ (EndSeed known first starting rules)
      (EndEdge known first starting rules) := adds_endingPass hl
  refine (hadds.mem_settle_iff (TokenSet.ascending_singleton eos) (EndEdge.lt hl)).trans ?_
  simp

/-- The ending sets respect the rules. -/
theorem followClosed_endingSets (hl : Linked first rules) :
    FollowClosed rules (fun q => Marked known (q - first))
      (fun q t => t ∈ starting.getD (q - first) [])
      fun q t => t ∈ (endingSets known first eos starting rules).1.getD (q - first) [] := by
  intro r hr before q after hb
  obtain ⟨rs, post, ho, hq, hpost⟩ := exists_occurs_of_expands hb
  constructor
  · intro t ht
    rw [mem_endingSets_iff_path hl]
    have := mem_startOf.mpr (exists_leads_of_front (fun _ h => h) hpost ht)
    exact ⟨q - first, .refl, Or.inr ⟨r, hr, rs, post, ho, q, hq, rfl, this⟩⟩
  · intro hopen t ht
    rw [mem_endingSets_iff_path hl] at ht ⊢
    obtain ⟨i, hpath, hseed⟩ := ht
    have : (startOf known first starting post).2 = true :=
      startOf_open_iff.mpr (all_mayBeEmpty_of_open hpost hopen)
    exact ⟨i, hpath.tail ⟨r, hl.getElem?_of_mem hr, rs, post, ho, this, q, hq, rfl⟩, hseed⟩

/-- An expansion in which a rule stands for the choice that it is one of. -/
theorem exists_expands_around (hne : ∀ r ∈ rules, ∀ s ∈ r.steps, s.sources ≠ []) {r : Rule}
    (hr : r ∈ rules) {rs : List RuleId} {post : List Step} (ho : Occurs r.steps rs post)
    {q : RuleId} (hq : q ∈ rs) {right : Form} (hright : Expands post right) :
    ∃ left, Derives rules [.rule r.id] (left ++ .rule q :: right) := by
  obtain ⟨pre, hsplit⟩ := ho.exists_split
  have hpre : ∀ s ∈ pre, s.sources ≠ [] := fun s hs =>
    hne r hr s (by rw [hsplit]; exact List.mem_append_left _ hs)
  obtain ⟨left, hleft⟩ := exists_expands hpre
  refine ⟨left, Derives.of_expands hr ?_⟩
  rw [hsplit]
  exact hleft.append (.cons (mem_symbols_nonTerminal.mpr ⟨q, hq, rfl⟩) hright)

/-- The token comes right after the rule in a form that some rule derives. -/
def ComesAfter (rules : List Rule) (q : RuleId) (t : TokenId) : Prop :=
  ∃ p ∈ rules, ∃ before after,
    Derives rules [.rule p.id] (before ++ .rule q :: .token t :: after)

theorem comesAfter_of_endSeed (hl : Linked first rules)
    (hne : ∀ r ∈ rules, ∀ s ∈ r.steps, s.sources ≠ []) {q : RuleId} (hbound : first ≤ q)
    {t : TokenId} (h : EndSeed (nullable first rules) first
      (startingSets (nullable first rules) first rules).1 rules (q - first) t) :
    ComesAfter rules q t := by
  obtain ⟨r, hr, rs, post, ho, q', hq', heq, ht⟩ := h
  have hbound' := hl.source_bounds r hr rs ho.mem q' hq'
  obtain rfl : q = q' := by grind
  have hsub : ∀ s ∈ post, s ∈ r.steps := by
    intro s hs
    obtain ⟨pre, hsplit⟩ := ho.exists_split
    rw [hsplit]
    exact List.mem_append_right pre (List.mem_cons_of_mem _ hs)
  obtain ⟨s, hs, hcase⟩ := mem_startOf.mp ht
  have hfront : ∃ right rest, Expands post right ∧ Derives rules right (.token t :: rest) := by
    rcases hcase with ⟨ts, rfl, hts⟩ | ⟨rs', rfl, p, hp, htp⟩
    · exact derives_of_leads hl hne ⟨r, hr, hsub⟩ hs (mem_symbols_terminal.mpr ⟨t, hts, rfl⟩)
    · obtain ⟨right, rest, hright, hd⟩ := derives_of_leads hl hne ⟨r, hr, hsub⟩ hs
        (mem_symbols_nonTerminal.mpr ⟨p, hp, rfl⟩)
      have hpb := hl.source_bounds r hr rs' (hsub _ hs.mem) p hp
      obtain ⟨rest', hd'⟩ := (mem_startingSets_iff hl hne hpb.1 hpb.2).mp htp
      exact ⟨right, rest' ++ rest, hright, hd.trans (hd'.append_right rest)⟩
  obtain ⟨right, rest, hright, hd⟩ := hfront
  obtain ⟨left, hleft⟩ := exists_expands_around hne hr ho hq' hright
  exact ⟨r, hr, left, rest, hleft.trans ((hd.append_left [.rule q]).append_left left)⟩

theorem comesAfter_of_endEdge (hl : Linked first rules)
    (hne : ∀ r ∈ rules, ∀ s ∈ r.steps, s.sources ≠ []) {p q : RuleId} (hp : first ≤ p)
    (hq : first ≤ q) {t : TokenId}
    (hedge : EndEdge (nullable first rules) first
      (startingSets (nullable first rules) first rules).1 rules (p - first) (q - first))
    (h : ComesAfter rules p t) : ComesAfter rules q t := by
  obtain ⟨r, hr, rs, post, ho, hopen, q', hq', heq⟩ := hedge
  have hmem := List.mem_of_getElem? hr
  have hid := hl.id_eq _ _ hr
  obtain rfl : r.id = p := by grind
  have hbound' := hl.source_bounds r hmem rs ho.mem q' hq'
  obtain rfl : q = q' := by grind
  have hvanish : ∀ s ∈ post, s.Vanishes rules := by
    intro s hs
    have hsr : s ∈ r.steps := by
      obtain ⟨pre, hsplit⟩ := ho.exists_split
      rw [hsplit]
      exact List.mem_append_right pre (List.mem_cons_of_mem _ hs)
    exact (mayBeEmpty_nullable_iff hl hmem hsr).mp (startOf_open_iff.mp hopen s hs)
  obtain ⟨right, hright, hnil⟩ := exists_expands_of_vanishes hvanish
  obtain ⟨left, hleft⟩ := exists_expands_around hne hmem ho hq' hright
  obtain ⟨p', hp', before, after, hd⟩ := h
  refine ⟨p', hp', before ++ left, after, ?_⟩
  have hinner : Derives rules [.rule r.id] (left ++ [.rule q]) := by
    have := hleft.trans ((hnil.append_left [.rule q]).append_left left)
    simpa using this
  have houter := (hinner.append_right (.token t :: after)).append_left before
  simpa using hd.trans houter

/-- **Ending tokens.** Besides the end of the stream, a rule can be followed by
exactly the tokens that come right after it in a form that some rule derives. -/
theorem mem_endingSets_iff (hl : Linked first rules)
    (hne : ∀ r ∈ rules, ∀ s ∈ r.steps, s.sources ≠ []) {q : RuleId} (hq : first ≤ q)
    (hlt : q < first + rules.length) {t : TokenId} :
    t ∈ (endingSets (nullable first rules) first eos
        (startingSets (nullable first rules) first rules).1 rules).1.getD (q - first) [] ↔
      t = eos ∨ ComesAfter rules q t := by
  constructor
  · intro h
    obtain ⟨i, hpath, hseed⟩ := (mem_endingSets_iff_path hl).mp h
    rcases hseed with ⟨-, rfl⟩ | hseed
    · exact Or.inl rfl
    · refine Or.inr ?_
      clear h hlt
      generalize hj : q - first = j at hpath
      induction hpath generalizing q with
      | refl => subst hj; exact comesAfter_of_endSeed hl hne hq hseed
      | @tail k _ _ hedge ih =>
        subst hj
        have hk : first + k - first = k := Nat.add_sub_cancel_left ..
        refine comesAfter_of_endEdge hl hne (Nat.le_add_right first k) hq ?_
          (ih (Nat.le_add_right first k) hk)
        rw [hk]; exact hedge
  · intro h
    rcases h with rfl | ⟨p, hp, before, after, hd⟩
    · rw [mem_endingSets_iff_path hl]
      exact ⟨q - first, .refl, Or.inl ⟨by grind, rfl⟩⟩
    · have hfollowed := followed_of_derives (openClosed_nullable hl)
        (frontClosed_startingSets hl) (@followClosed_endingSets _ _ _ eos _ hl) hd
        (followed_singleton p.id)
      exact hfollowed before q (.token t :: after) rfl t rfl

end Sets

end GrammarKit.Compile
