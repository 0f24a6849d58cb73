import GrammarKit.Proofs.Compile.Nullable
import GrammarKit.Proofs.Compile.Seeds

/-!
# Starting tokens

A token is a starting token of a rule exactly if the rule derives a form that
begins with it (`mem_startingSets_iff`).

That every starting token begins a derivable form follows the edges along which
the token came: at each rule the steps before the one it came through vanish
(`Leads`). The other half needs no derivation to be taken apart: the starting
sets respect the rules (`frontClosed_startingSets`), and rewriting adds nothing
to the front of a form.
-/
namespace GrammarKit.Compile

open Relation (ReflTransGen)
open Seeds (Adds)

/-- The step comes after steps that may all be empty. -/
inductive Leads (known : Array Bool) (first : RuleId) : List Step → Step → Prop where
  | head (s : Step) (rest : List Step) : Leads known first (s :: rest) s
  | skip {q s : Step} {rest : List Step} :
      mayBeEmpty known first q = true → Leads known first rest s → Leads known first (q :: rest) s

section Leads

variable {known : Array Bool} {first : RuleId}

theorem leads_cons {q s : Step} {rest : List Step} :
    Leads known first (q :: rest) s ↔
      s = q ∨ (mayBeEmpty known first q = true ∧ Leads known first rest s) := by
  constructor
  · intro h
    cases h with
    | head => exact Or.inl rfl
    | skip hq h => exact Or.inr ⟨hq, h⟩
  · intro h
    rcases h with rfl | ⟨hq, h⟩
    · exact .head _ _
    · exact .skip hq h

theorem Leads.exists_split {steps : List Step} {s : Step} (h : Leads known first steps s) :
    ∃ pre post, steps = pre ++ s :: post ∧ ∀ q ∈ pre, mayBeEmpty known first q = true := by
  induction h with
  | head s rest => exact ⟨[], rest, rfl, by simp⟩
  | @skip q s rest hq _ ih =>
    obtain ⟨pre, post, rfl, hpre⟩ := ih
    refine ⟨q :: pre, post, rfl, ?_⟩
    intro q' hq'
    rcases List.mem_cons.mp hq' with rfl | hq'
    · exact hq
    · exact hpre q' hq'

theorem Leads.mem {steps : List Step} {s : Step} (h : Leads known first steps s) : s ∈ steps := by
  obtain ⟨pre, post, rfl, -⟩ := h.exists_split
  exact List.mem_append_right pre List.mem_cons_self

/-- What stands in front of an expansion comes from a step that leads. -/
theorem exists_leads_of_front {N : RuleId → Prop} {F : RuleId → TokenId → Prop} {t : TokenId}
    (hN : ∀ q, N q → Marked known (q - first)) {steps : List Step} {body : Form}
    (hb : Expands steps body) (hf : Front N F t body) :
    ∃ s, Leads known first steps s ∧
      ((∃ ts, s = .terminal ts ∧ t ∈ ts) ∨ ∃ rs, s = .nonTerminal rs ∧ ∃ q ∈ rs, F q t) := by
  induction hb with
  | nil => exact hf.elim
  | @cons s x steps body hx _ ih =>
    cases s with
    | terminal ts =>
      obtain ⟨u, hu, rfl⟩ := mem_symbols_terminal.mp hx
      cases hf
      exact ⟨_, .head _ _, Or.inl ⟨ts, rfl, hu⟩⟩
    | nonTerminal rs =>
      obtain ⟨q, hq, rfl⟩ := mem_symbols_nonTerminal.mp hx
      rcases hf with hf | ⟨hq', hf⟩
      · exact ⟨_, .head _ _, Or.inr ⟨rs, rfl, q, hq, hf⟩⟩
      · obtain ⟨s, hs, hcase⟩ := ih hf
        exact ⟨s, .skip (mayBeEmpty_iff.mpr ⟨rs, rfl, q, hq, hN q hq'⟩) hs, hcase⟩

end Leads

/-! ## The seeds -/

section Seeds

variable {known : Array Bool} {first : RuleId}

/-- The steps can start with the token. -/
def LeadToken (known : Array Bool) (first : RuleId) (steps : List Step) (t : TokenId) : Prop :=
  ∃ ts, Leads known first steps (.terminal ts) ∧ t ∈ ts

/-- The steps can start as the rule at place `i` does. -/
def LeadPlace (known : Array Bool) (first : RuleId) (steps : List Step) (i : Nat) : Prop :=
  ∃ rs, Leads known first steps (.nonTerminal rs) ∧ ∃ q ∈ rs, i = q - first

section Lead

variable {steps : List Step} {ts : List TokenId} {rs : List RuleId} {t : TokenId} {i : Nat}

theorem leadToken_nil : ¬ LeadToken known first [] t := by
  intro h
  obtain ⟨_, h, -⟩ := h
  cases h

theorem leadPlace_nil : ¬ LeadPlace known first [] i := by
  intro h
  obtain ⟨_, h, -⟩ := h
  cases h

theorem leadToken_terminal : LeadToken known first (.terminal ts :: steps) t ↔ t ∈ ts := by
  simp [LeadToken, leads_cons, mayBeEmpty]

theorem leadPlace_terminal : ¬ LeadPlace known first (.terminal ts :: steps) i := by
  simp [LeadPlace, leads_cons, mayBeEmpty]

theorem leadToken_nonTerminal : LeadToken known first (.nonTerminal rs :: steps) t ↔
    mayBeEmpty known first (.nonTerminal rs) = true ∧ LeadToken known first steps t := by
  simp [LeadToken, leads_cons, and_assoc]

theorem leadPlace_nonTerminal : LeadPlace known first (.nonTerminal rs :: steps) i ↔
    (∃ q ∈ rs, i = q - first) ∨
      (mayBeEmpty known first (.nonTerminal rs) = true ∧ LeadPlace known first steps i) := by
  simp only [LeadPlace, leads_cons, Step.nonTerminal.injEq]
  constructor
  · intro h
    obtain ⟨rs', rfl | ⟨hempty, h⟩, hq⟩ := h
    · exact Or.inl hq
    · exact Or.inr ⟨hempty, rs', h, hq⟩
  · intro h
    rcases h with hq | ⟨hempty, rs', h, hq⟩
    · exact ⟨rs, Or.inl rfl, hq⟩
    · exact ⟨rs', Or.inr ⟨hempty, h⟩, hq⟩

end Lead

/-- A choice between rules brings an edge from each of them. -/
theorem adds_links {n : Nat} {rs : List RuleId} (hrs : ∀ q ∈ rs, q - first < n) (index : Nat) :
    Adds n (fun s => rs.foldl (fun s q => s.link (q - first) index) s)
      (fun _ _ => False) (fun i j => j = index ∧ ∃ q ∈ rs, i = q - first) := by
  refine (Seeds.adds_foldl rs fun q hq => Seeds.adds_link (hrs q hq) index).congr ?_ ?_
  · intro i t
    simp
  · intro i j
    constructor
    · intro h
      obtain ⟨q, hq, hi, hj⟩ := h
      exact ⟨hj, q, hq, hi⟩
    · intro h
      obtain ⟨hj, q, hq, hi⟩ := h
      exact ⟨q, hq, hi, hj⟩

theorem adds_startingSeeds {n index : Nat} (hindex : index < n) {steps : List Step}
    (hsource : ∀ rs, Step.nonTerminal rs ∈ steps → ∀ q ∈ rs, q - first < n) :
    Adds n (fun s => startingSeeds known first index s steps)
      (fun i t => i = index ∧ LeadToken known first steps t)
      (fun i j => j = index ∧ LeadPlace known first steps i) := by
  induction steps with
  | nil =>
    refine Seeds.adds_nothing.congr ?_ ?_
    · intro i t
      simp [leadToken_nil]
    · intro i j
      simp [leadPlace_nil]
  | cons s steps ih =>
    have ih := ih fun rs hrs => hsource rs (List.mem_cons_of_mem s hrs)
    cases s with
    | terminal ts =>
      refine (Seeds.adds_grow hindex ts).congr ?_ ?_
      · intro i t
        rw [leadToken_terminal]
      · intro i j
        simp [leadPlace_terminal]
    | nonTerminal rs =>
      have hlinks := adds_links (hsource rs List.mem_cons_self) index
      by_cases hempty : mayBeEmpty known first (.nonTerminal rs) = true
      · have hop : (fun s => startingSeeds known first index s (.nonTerminal rs :: steps)) =
            fun s => startingSeeds known first index
              (rs.foldl (fun s q => s.link (q - first) index) s) steps := by
          funext s
          rw [startingSeeds, if_pos hempty]
        rw [hop]
        refine (hlinks.comp ih).congr ?_ ?_
        · intro i t
          simp [leadToken_nonTerminal, hempty]
        · intro i j
          simp only [leadPlace_nonTerminal, hempty, true_and, and_or_left]
      · have hop : (fun s => startingSeeds known first index s (.nonTerminal rs :: steps)) =
            fun s => rs.foldl (fun s q => s.link (q - first) index) s := by
          funext s
          rw [startingSeeds, if_neg hempty]
        rw [hop]
        refine hlinks.congr ?_ ?_
        · intro i t
          simp [leadToken_nonTerminal, hempty]
        · intro i j
          simp [leadPlace_nonTerminal, hempty]

end Seeds

/-! ## The sets -/

section Sets

variable {known : Array Bool} {first : RuleId} {rules : List Rule}

/-- A token comes first into the set of the rule at `j`. -/
def StartSeed (known : Array Bool) (first : RuleId) (rules : List Rule) (j : Nat) (t : TokenId) :
    Prop :=
  ∃ r, rules[j]? = some r ∧ ∃ ts, Leads known first r.steps (.terminal ts) ∧ t ∈ ts

/-- The rule at `j` starts as the rule at `i` does. -/
def StartEdge (known : Array Bool) (first : RuleId) (rules : List Rule) (i j : Nat) : Prop :=
  ∃ r, rules[j]? = some r ∧
    ∃ rs, Leads known first r.steps (.nonTerminal rs) ∧ ∃ q ∈ rs, i = q - first

theorem source_lt (hl : Linked first rules) {r : Rule} (hr : r ∈ rules) {rs : List RuleId}
    (hrs : Step.nonTerminal rs ∈ r.steps) {q : RuleId} (hq : q ∈ rs) :
    q - first < rules.length := by
  have := hl.source_bounds r hr rs hrs q hq
  grind

theorem startSeed_iff {i : Nat} {t : TokenId} :
    (∃ k r, rules[k]? = some r ∧ i = k ∧ LeadToken known first r.steps t) ↔
      StartSeed known first rules i t := by
  constructor
  · intro h
    obtain ⟨_, r, hr, rfl, h⟩ := h
    exact ⟨r, hr, h⟩
  · intro h
    obtain ⟨r, hr, h⟩ := h
    exact ⟨i, r, hr, rfl, h⟩

theorem startEdge_iff {i j : Nat} :
    (∃ k r, rules[k]? = some r ∧ j = k ∧ LeadPlace known first r.steps i) ↔
      StartEdge known first rules i j := by
  constructor
  · intro h
    obtain ⟨_, r, hr, rfl, h⟩ := h
    exact ⟨r, hr, h⟩
  · intro h
    obtain ⟨r, hr, h⟩ := h
    exact ⟨j, r, hr, rfl, h⟩

/-- What the pass over the rules adds. -/
theorem adds_startingPass (hl : Linked first rules) :
    Adds rules.length
      (fun s => rules.zipIdx.foldl (fun s (r, k) => startingSeeds known first k s r.steps) s)
      (StartSeed known first rules) (StartEdge known first rules) := by
  have hrule : ∀ k r, rules[k]? = some r →
      Adds rules.length (fun s => startingSeeds known first k s r.steps)
        (fun i t => i = k ∧ LeadToken known first r.steps t)
        (fun i j => j = k ∧ LeadPlace known first r.steps i) := by
    intro k r hr
    exact adds_startingSeeds (List.getElem?_eq_some_iff.mp hr).1 fun rs hrs q hq =>
      source_lt hl (List.mem_of_getElem? hr) hrs hq
  exact (@Seeds.adds_rules _ (startingSeeds known first) _ _ rules hrule).congr
    (fun _ _ => startSeed_iff) (fun _ _ => startEdge_iff)

theorem StartEdge.lt (hl : Linked first rules) (i j : Nat) (h : StartEdge known first rules i j) :
    i < rules.length ∧ j < rules.length := by
  obtain ⟨r, hr, rs, hrs, q, hq, rfl⟩ := h
  exact ⟨source_lt hl (List.mem_of_getElem? hr) hrs.mem hq, (List.getElem?_eq_some_iff.mp hr).1⟩

theorem ascending_startingSets (hl : Linked first rules) (i : Nat) :
    TokenSet.Ascending ((startingSets known first rules).1.getD i []) :=
  (adds_startingPass hl).ascending_settle TokenSet.ascending_nil (StartEdge.lt hl) i

theorem mem_startingSets_iff_path (hl : Linked first rules) {j : Nat} {t : TokenId} :
    t ∈ (startingSets known first rules).1.getD j [] ↔
      ∃ i, ReflTransGen (StartEdge known first rules) i j ∧ StartSeed known first rules i t := by
  have hadds : Adds rules.length _ (StartSeed known first rules) (StartEdge known first rules) :=
    adds_startingPass hl
  refine (hadds.mem_settle_iff TokenSet.ascending_nil (StartEdge.lt hl)).trans ?_
  simp

/-- A step that leads a rule can be brought to the front. -/
theorem derives_of_leads (hl : Linked first rules)
    (hne : ∀ r ∈ rules, ∀ s ∈ r.steps, s.sources ≠ []) {steps : List Step}
    (hmem : ∃ r ∈ rules, ∀ s ∈ steps, s ∈ r.steps) {s : Step}
    (hs : Leads (nullable first rules) first steps s) {x : Symbol} (hx : x ∈ s.symbols) :
    ∃ body rest, Expands steps body ∧ Derives rules body (x :: rest) := by
  obtain ⟨r, hr, hsub⟩ := hmem
  obtain ⟨pre, post, rfl, hpre⟩ := hs.exists_split
  have hvanish : ∀ q ∈ pre, q.Vanishes rules := by
    intro q hq
    have hqr := hsub q (List.mem_append_left _ hq)
    exact (mayBeEmpty_nullable_iff hl hr hqr).mp (hpre q hq)
  have hpost : ∀ q ∈ post, q.sources ≠ [] := fun q hq =>
    hne r hr q (hsub q (List.mem_append_right pre (List.mem_cons_of_mem s hq)))
  obtain ⟨left, hleft, hnil⟩ := exists_expands_of_vanishes hvanish
  obtain ⟨right, hright⟩ := exists_expands hpost
  exact ⟨left ++ x :: right, right, hleft.append (.cons hx hright),
    hnil.append_right (x :: right)⟩

/-- The starting sets respect the rules. -/
theorem frontClosed_startingSets (hl : Linked first rules) :
    FrontClosed rules (fun q => Marked known (q - first))
      fun q t => t ∈ (startingSets known first rules).1.getD (q - first) [] := by
  intro r hr body t hb hf
  have hget := hl.getElem?_of_mem hr
  rw [mem_startingSets_iff_path hl]
  obtain ⟨s, hs, ⟨ts, rfl, ht⟩ | ⟨rs, rfl, q, hq, hqt⟩⟩ :=
    exists_leads_of_front (fun _ h => h) hb hf
  · exact ⟨r.id - first, .refl, r, hget, ts, hs, ht⟩
  · obtain ⟨i, hi, hseed⟩ := (mem_startingSets_iff_path hl).mp hqt
    exact ⟨i, hi.tail ⟨r, hget, rs, hs, q, hq, rfl⟩, hseed⟩

/-- Every starting token stands in front of a form that the rule derives. -/
theorem derives_of_path (hl : Linked first rules)
    (hne : ∀ r ∈ rules, ∀ s ∈ r.steps, s.sources ≠ []) {i j : Nat} {t : TokenId}
    (hpath : ReflTransGen (StartEdge (nullable first rules) first rules) i j)
    (hseed : StartSeed (nullable first rules) first rules i t) {r : Rule}
    (hr : rules[j]? = some r) : ∃ rest, Derives rules [.rule r.id] (.token t :: rest) := by
  induction hpath generalizing r with
  | refl =>
    obtain ⟨r', hr', ts, hs, ht⟩ := hseed
    rw [hr'] at hr
    obtain rfl := Option.some.inj hr
    have hmem := List.mem_of_getElem? hr'
    obtain ⟨body, rest, hb, hd⟩ := derives_of_leads hl hne ⟨r', hmem, fun _ h => h⟩ hs
      (mem_symbols_terminal.mpr ⟨t, ht, rfl⟩)
    exact ⟨rest, (Derives.of_expands hmem hb).trans hd⟩
  | tail _ hedge ih =>
    obtain ⟨r', hr', rs, hs, q, hq, rfl⟩ := hedge
    rw [hr'] at hr
    obtain rfl := Option.some.inj hr
    have hmem := List.mem_of_getElem? hr'
    have hbounds := hl.source_bounds r' hmem rs hs.mem q hq
    obtain ⟨rq, hrq, rfl⟩ := hl.exists_rule hbounds.1 hbounds.2
    obtain ⟨body, rest, hb, hd⟩ := derives_of_leads hl hne ⟨r', hmem, fun _ h => h⟩ hs
      (mem_symbols_nonTerminal.mpr ⟨rq.id, hq, rfl⟩)
    obtain ⟨rest', hd'⟩ := ih hrq
    exact ⟨rest' ++ rest,
      ((Derives.of_expands hmem hb).trans hd).trans (hd'.append_right rest)⟩

/-- **Starting tokens.** A rule starts with the tokens that stand in front of a
form it derives. -/
theorem mem_startingSets_iff (hl : Linked first rules)
    (hne : ∀ r ∈ rules, ∀ s ∈ r.steps, s.sources ≠ []) {q : RuleId} (hq : first ≤ q)
    (hlt : q < first + rules.length) {t : TokenId} :
    t ∈ (startingSets (nullable first rules) first rules).1.getD (q - first) [] ↔
      ∃ rest, Derives rules [.rule q] (.token t :: rest) := by
  constructor
  · intro h
    obtain ⟨i, hpath, hseed⟩ := (mem_startingSets_iff_path hl).mp h
    obtain ⟨r, hr, rfl⟩ := hl.exists_rule hq hlt
    exact derives_of_path hl hne hpath hseed hr
  · intro h
    obtain ⟨rest, hd⟩ := h
    have hfront := front_of_derives (openClosed_nullable hl) (frontClosed_startingSets hl) hd
      (show Front _ _ t (.token t :: rest) from rfl)
    rcases hfront with h | ⟨-, h⟩
    · exact h
    · exact h.elim

end Sets

end GrammarKit.Compile
