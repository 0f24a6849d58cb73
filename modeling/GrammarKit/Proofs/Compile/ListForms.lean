import GrammarKit.Proofs.Compile.Grammar
import GrammarKit.Proofs.Compile.ListWords
import GrammarKit.Proofs.Compile.Provenance

/-!
# The forms of lists

A list parameter becomes a step over rules that were made for it. `Unfolds`
replaces these rules from left to right, and only these, and notes which ones.
What comes out is a list of elements with delimiters (`ListForm`), and every list
that is long enough comes out, in one way: the rules of `path n` for `n` elements
(`unfolds_step_iff`).

`list_unfolds_iff` says so for the list parameters of a compiled grammar.
-/
namespace GrammarKit.Compile

/-! ## Unfolding the rules of lists -/

/-- The rule is not one that was made for a list. -/
def Stays (rules : List Rule) (q : RuleId) : Prop :=
  ∀ r ∈ rules, r.id = q → r.origin.isSynthetic = false

/-- The rule was made for a list, with these steps. -/
def MadeForList (rules : List Rule) (q : RuleId) (steps : List Step) : Prop :=
  ∃ r ∈ rules, r.id = q ∧ r.origin.isSynthetic = true ∧ r.steps = steps ∧
    ∀ r' ∈ rules, r'.id = q → r' = r

/-- Replaces the rules that were made for lists, and what they are replaced by in
turn, from left to right. The rules so replaced are `choices`. -/
inductive Unfolds (rules : List Rule) : Form → (choices : List RuleId) → Form → Prop where
  | nil : Unfolds rules [] [] []
  | token {t : TokenId} {α β : Form} {choices : List RuleId} : Unfolds rules α choices β →
      Unfolds rules (.token t :: α) choices (.token t :: β)
  /-- Other rules stay. -/
  | stay {q : RuleId} {α β : Form} {choices : List RuleId} :
      Stays rules q → Unfolds rules α choices β →
      Unfolds rules (.rule q :: α) choices (.rule q :: β)
  | unfold {r : Rule} {body α β : Form} {choices : List RuleId} : r ∈ rules →
      r.origin.isSynthetic = true → Expands r.steps body → Unfolds rules (body ++ α) choices β →
      Unfolds rules (.rule r.id :: α) (r.id :: choices) β

section Unfolds

variable {rules : List Rule} {q : RuleId} {steps : List Step} {α β : Form} {choices : List RuleId}

theorem unfolds_nil_iff : Unfolds rules [] choices β ↔ choices = [] ∧ β = [] := by
  constructor
  · intro h
    cases h
    exact ⟨rfl, rfl⟩
  · intro h
    obtain ⟨rfl, rfl⟩ := h
    exact .nil

theorem unfolds_token_iff {t : TokenId} :
    Unfolds rules (.token t :: α) choices β ↔
      ∃ β', β = .token t :: β' ∧ Unfolds rules α choices β' := by
  constructor
  · intro h
    cases h with
    | token h => exact ⟨_, rfl, h⟩
  · intro h
    obtain ⟨β', rfl, h⟩ := h
    exact .token h

theorem unfolds_tokens_iff {ts : List TokenId} :
    Unfolds rules (ts.map .token ++ α) choices β ↔
      ∃ β', β = ts.map .token ++ β' ∧ Unfolds rules α choices β' := by
  induction ts generalizing β with
  | nil => simp
  | cons t ts ih =>
    rw [List.map_cons, List.cons_append, unfolds_token_iff]
    constructor
    · intro h
      obtain ⟨β', rfl, htail⟩ := h
      obtain ⟨β'', rfl, hrest⟩ := ih.mp htail
      exact ⟨β'', rfl, hrest⟩
    · intro h
      obtain ⟨β', rfl, h⟩ := h
      exact ⟨_, rfl, ih.mpr ⟨β', rfl, h⟩⟩

theorem unfolds_stays_iff (hq : Stays rules q) :
    Unfolds rules (.rule q :: α) choices β ↔
      ∃ β', β = .rule q :: β' ∧ Unfolds rules α choices β' := by
  constructor
  · intro h
    cases h with
    | stay _ h => exact ⟨_, rfl, h⟩
    | @unfold r _ _ _ _ hr hmade _ _ =>
      rw [hq r hr rfl] at hmade
      cases hmade
  · intro h
    obtain ⟨β', rfl, h⟩ := h
    exact .stay hq h

theorem unfolds_made_iff (hq : MadeForList rules q steps) :
    Unfolds rules (.rule q :: α) choices β ↔
      ∃ body later, choices = q :: later ∧ Expands steps body ∧
        Unfolds rules (body ++ α) later β := by
  obtain ⟨r, hr, rfl, hmade, rfl, hsole⟩ := hq
  constructor
  · intro h
    generalize hx : Symbol.rule r.id :: α = form at h
    cases h with
    | nil => cases hx
    | token _ => cases hx
    | stay hstays _ =>
      cases hx
      rw [hstays r hr rfl] at hmade
      cases hmade
    | @unfold r' body _ _ later hr' _ hbody h =>
      obtain ⟨hid, rfl⟩ := List.cons.inj hx
      have heq := hsole r' hr' (Symbol.rule.inj hid).symm
      subst heq
      exact ⟨body, later, rfl, hbody, h⟩
  · intro h
    obtain ⟨body, later, rfl, hbody, h⟩ := h
    exact .unfold hr hmade hbody h

end Unfolds

/-! ## Lists as forms -/

/-- Elements and delimiters in turn, as long as there are delimiters. -/
def weave : List RuleId → List TokenId → Form
  | [], ts => ts.map .token
  | e :: es, [] => .rule e :: weave es []
  | e :: es, t :: ts => .rule e :: .token t :: weave es ts

/-- Number of delimiters in a list of `n` elements. -/
def delimiterCount : Option Delimiter → (n : Nat) → Nat
  | none, _ => 0
  | some (.separator _), n => n - 1
  | some (.terminator _), n => n

/-- The form is a list of `n` elements among `E`, with delimiters among `D` between
them or after each, as the kind of delimiter has it. -/
def ListForm (δ : Option Delimiter) (E : RuleId → Prop) (D : TokenId → Prop) (n : Nat) (β : Form) :
    Prop :=
  ∃ es ts, es.length = n ∧ (∀ e ∈ es, E e) ∧ (∀ t ∈ ts, D t) ∧
    ts.length = delimiterCount δ n ∧ β = weave es ts

/-- An element with some delimiters after it. -/
def ItemForm (E : RuleId → Prop) (D : TokenId → Prop) (delimiters : Nat) (β : Form) : Prop :=
  ∃ (e : RuleId) (ts : List TokenId), E e ∧ ts.length = delimiters ∧ (∀ t ∈ ts, D t) ∧
    β = .rule e :: ts.map .token

section ListForm

variable {δ : Option Delimiter} {E : RuleId → Prop} {D : TokenId → Prop} {n : Nat} {β : Form}

/-- The number of elements is that of the rules in the form. -/
theorem ListForm.length_eq {m : Nat} (h : ListForm δ E D n β) (h' : ListForm δ E D m β) :
    n = m := by
  have hcount : ∀ (es : List RuleId) (ts : List TokenId),
      (weave es ts).countP (fun x => x matches .rule _) = es.length := by
    intro es ts
    fun_induction weave es ts with
    | case1 ts => simp [List.countP_eq_zero]
    | case2 e es ih => rw [List.countP_cons_of_pos rfl, ih]; rfl
    | case3 e es t ts ih => rw [List.countP_cons_of_pos rfl, List.countP_cons_of_neg (by simp), ih]; rfl
  obtain ⟨es, ts, rfl, -, -, -, rfl⟩ := h
  obtain ⟨es', ts', rfl, -, -, -, heq⟩ := h'
  rw [← hcount es ts, ← hcount es' ts', heq]

/-- A list of one element. -/
theorem listForm_one_iff : ListForm δ E D 1 β ↔ ItemForm E D (delimiterCount δ 1) β := by
  constructor
  · intro h
    obtain ⟨es, ts, hn, hes, hts, hcount, rfl⟩ := h
    obtain ⟨e, rfl⟩ := List.length_eq_one_iff.mp hn
    refine ⟨e, ts, hes e List.mem_cons_self, hcount, hts, ?_⟩
    cases ts <;> rfl
  · intro h
    obtain ⟨e, ts, he, hcount, hts, rfl⟩ := h
    refine ⟨[e], ts, rfl, by simpa using he, hts, hcount, ?_⟩
    cases ts <;> rfl

/-- Number of delimiters after an element that is not the last one. -/
def gapCount (δ : Option Delimiter) : Nat := if δ.isSome then 1 else 0

theorem delimiterCount_succ (hn : 1 ≤ n) :
    delimiterCount δ (n + 1) = gapCount δ + delimiterCount δ n := by
  rcases δ with _ | (_ | _)
  · rfl
  · show n + 1 - 1 = 1 + (n - 1)
    omega
  · exact Nat.add_comm n 1

/-- A longer list is an element with a delimiter, if there are any, before a list. -/
theorem listForm_succ_iff (hn : 1 ≤ n) : ListForm δ E D (n + 1) β ↔
    ∃ first rest, β = first ++ rest ∧ ItemForm E D (gapCount δ) first ∧ ListForm δ E D n rest := by
  constructor
  · intro h
    obtain ⟨es, ts, hlen, hes, hts, hcount, rfl⟩ := h
    obtain ⟨e, es, rfl⟩ := List.exists_cons_of_length_eq_add_one hlen
    obtain ⟨he, hes⟩ := List.forall_mem_cons.mp hes
    have hlen : es.length = n := Nat.succ.inj hlen
    rw [delimiterCount_succ hn] at hcount
    cases δ with
    | none =>
      obtain rfl : ts = [] := List.eq_nil_of_length_eq_zero hcount
      exact ⟨[.rule e], weave es [], rfl, ⟨e, [], he, rfl, by simp, rfl⟩, es, [], hlen, hes,
        by simp, rfl, rfl⟩
    | some d =>
      obtain ⟨t, ts, rfl⟩ := List.exists_cons_of_length_eq_add_one (hcount.trans (Nat.add_comm ..))
      obtain ⟨ht, hts⟩ := List.forall_mem_cons.mp hts
      exact ⟨[.rule e, .token t], weave es ts, rfl, ⟨e, [t], he, rfl, by simpa using ht, rfl⟩, es,
        ts, hlen, hes, hts, Nat.succ.inj (hcount.trans (Nat.add_comm ..)), rfl⟩
  · intro h
    obtain ⟨_, _, rfl, ⟨e, ts, he, hlen, hts, rfl⟩, es, ts', rfl, hes, hts', hcount, rfl⟩ := h
    refine ⟨e :: es, ts ++ ts', rfl, List.forall_mem_cons.mpr ⟨he, hes⟩, ?_, ?_, ?_⟩
    · exact List.forall_mem_append.mpr ⟨hts, hts'⟩
    · rw [List.length_append, hlen, hcount, delimiterCount_succ hn]
    · cases δ with
      | none =>
        obtain rfl : ts = [] := List.eq_nil_of_length_eq_zero hlen
        obtain rfl : ts' = [] := List.eq_nil_of_length_eq_zero hcount
        rfl
      | some d =>
        obtain ⟨t, rfl⟩ := List.length_eq_one_iff.mp hlen
        rfl

/-- An element of a list and the delimiters after it stay. -/
theorem unfolds_item_iff {rules : List Rule} {choices : List RuleId} {delimiters : Nat}
    (hE : ∀ q, E q → Stays rules q) {first α : Form} (hfirst : ItemForm E D delimiters first) :
    Unfolds rules (first ++ α) choices β ↔
      ∃ rest, β = first ++ rest ∧ Unfolds rules α choices rest := by
  obtain ⟨e, ts, he, -, -, rfl⟩ := hfirst
  rw [List.cons_append, unfolds_stays_iff (hE e he)]
  simp only [unfolds_tokens_iff]
  constructor
  · intro h
    obtain ⟨_, rfl, rest, rfl, h⟩ := h
    exact ⟨rest, rfl, h⟩
  · intro h
    obtain ⟨rest, rfl, h⟩ := h
    exact ⟨_, rfl, rest, rfl, h⟩

end ListForm

/-! ## The steps of lists -/

namespace ListPlan

/-- The token can be a delimiter of the list. -/
def Delimits (l : ListPlan) (t : TokenTable) (c : TokenId) : Prop :=
  ∃ d ∈ l.key.delimiter, t.CanStandFor d.token c

/-- The form is a list of the plan, with `n` elements. -/
def IsList (l : ListPlan) (t : TokenTable) (n : Nat) (β : Form) : Prop :=
  ListForm l.key.delimiter (· ∈ l.items) (l.Delimits t) n β

variable {cx : Context} {t : TokenTable} {l : ListPlan} {body : Form}

theorem expands_item_iff {steps : List Step} {delimiters : Nat}
    (hsteps : ∀ body, Expands steps body ↔ ∃ ts : List TokenId, ts.length = delimiters ∧
      (∀ c ∈ ts, l.Delimits t c) ∧ body = ts.map .token) :
    Expands (.nonTerminal l.items :: steps) body ↔
      ItemForm (· ∈ l.items) (l.Delimits t) delimiters body := by
  rw [expands_cons_iff]
  simp only [mem_symbols_nonTerminal, hsteps]
  constructor
  · intro h
    obtain ⟨_, ⟨e, he, rfl⟩, _, rfl, ts, hlen, hts, rfl⟩ := h
    exact ⟨e, ts, he, hlen, hts, rfl⟩
  · intro h
    obtain ⟨e, ts, he, hlen, hts, rfl⟩ := h
    exact ⟨_, ⟨e, he, rfl⟩, _, rfl, ts, hlen, hts, rfl⟩

section Expansions

variable (hl : l.Fits cx) (hcx : cx.substitutes = t.substitutes)
include hl hcx

theorem expands_delimiterSteps : Expands l.delimiterSteps body ↔
    ∃ ts : List TokenId, ts.length = gapCount l.key.delimiter ∧ (∀ c ∈ ts, l.Delimits t c) ∧
      body = ts.map .token := by
  unfold delimiterSteps Delimits
  rw [hl.delimiter_eq, hcx]
  cases l.key.delimiter with
  | none =>
    rw [show (Option.map Step.terminal (none.map _)).toList = [] from rfl, expands_nil_iff]
    constructor
    · intro h
      exact ⟨[], rfl, by simp, h⟩
    · intro h
      obtain ⟨ts, hlen, -, rfl⟩ := h
      rw [List.eq_nil_of_length_eq_zero hlen]
      rfl
  | some d =>
    rw [show (Option.map Step.terminal ((some d).map _)).toList = [.terminal _] from rfl,
      expands_cons_iff]
    simp only [expands_nil_iff, mem_symbols_terminal,
      TokenTable.mem_withDescendants_substitutes_iff, List.mem_singleton, exists_eq_left]
    constructor
    · intro h
      obtain ⟨_, ⟨c, hc, rfl⟩, _, rfl, rfl⟩ := h
      exact ⟨[c], rfl, by simpa using hc, rfl⟩
    · intro h
      obtain ⟨ts, hlen, hts, rfl⟩ := h
      obtain ⟨c, rfl⟩ := List.length_eq_one_iff.mp hlen
      exact ⟨_, ⟨c, by simpa using hts, rfl⟩, _, rfl, rfl⟩

theorem expands_itemSteps : Expands l.itemSteps body ↔
    ItemForm (· ∈ l.items) (l.Delimits t) (gapCount l.key.delimiter) body :=
  expands_item_iff fun _ => expands_delimiterSteps hl hcx

/-- The last element is a list of its own. -/
theorem expands_lastSteps : Expands l.lastSteps body ↔ l.IsList t 1 body := by
  have hend : ∀ rest, Expands (if l.endsDelimited then l.delimiterSteps else []) rest ↔
      ∃ ts : List TokenId, ts.length = delimiterCount l.key.delimiter 1 ∧
        (∀ c ∈ ts, l.Delimits t c) ∧ rest = ts.map .token := by
    intro rest
    have hnone : Expands [] rest ↔ ∃ ts : List TokenId, ts.length = 0 ∧
        (∀ c ∈ ts, l.Delimits t c) ∧ rest = ts.map .token := by
      rw [expands_nil_iff]
      simp only [List.length_eq_zero_iff, exists_eq_left, List.map_nil, List.not_mem_nil,
        false_implies, implies_true, true_and]
    have hdelimiter : Expands l.delimiterSteps rest ↔ _ := expands_delimiterSteps hl hcx
    unfold endsDelimited
    rcases hd : l.key.delimiter with _ | (d | d)
    · exact hnone
    · exact hnone
    · rw [hd] at hdelimiter
      exact hdelimiter
  exact (expands_item_iff hend).trans listForm_one_iff.symm

end Expansions

/-! ## Unfolding a list -/

/-- Unfolding elements, as many as `m`, and the rest of the list. -/
def Chain (l : ListPlan) (rules : List Rule) (last more : RuleId) (m : Nat)
    (choices : List RuleId) (β : Form) : Prop :=
  ∃ body, Expands (l.chainSteps m last more) body ∧ Unfolds rules body choices β

/-- The rules that make a list of `n` elements. -/
def path (last more : RuleId) (n : Nat) : List RuleId := List.replicate (n - 1) more ++ [last]

/-- The rules are those of the plan. -/
structure Ready (l : ListPlan) (rules : List Rule) (last more : RuleId) : Prop where
  items : ∀ q ∈ l.items, Stays rules q
  made_last : MadeForList rules last l.lastSteps
  made_more : MadeForList rules more (l.moreSteps last more)

section Unfolding

variable {rules : List Rule} {last more : RuleId} {choices : List RuleId} {β : Form}
  (hl : l.Fits cx) (hcx : cx.substitutes = t.substitutes) (hready : l.Ready rules last more)
include hl hcx hready

theorem chain_succ_iff {m : Nat} : l.Chain rules last more (m + 1) choices β ↔
    ∃ first rest, β = first ++ rest ∧
      ItemForm (· ∈ l.items) (l.Delimits t) (gapCount l.key.delimiter) first ∧
      l.Chain rules last more m choices rest := by
  simp only [Chain, chainSteps_succ, expands_append_iff, expands_itemSteps hl hcx]
  constructor
  · intro h
    obtain ⟨_, ⟨first, α, rfl, hfirst, hα⟩, h⟩ := h
    obtain ⟨rest, rfl, hrest⟩ := (unfolds_item_iff hready.items hfirst).mp h
    exact ⟨first, rest, rfl, hfirst, α, hα, hrest⟩
  · intro h
    obtain ⟨first, rest, rfl, hfirst, α, hα, h⟩ := h
    exact ⟨_, ⟨first, α, rfl, hfirst, hα⟩, (unfolds_item_iff hready.items hfirst).mpr ⟨rest, rfl, h⟩⟩

theorem unfolds_last_iff :
    Unfolds rules [.rule last] choices β ↔ choices = [last] ∧ l.IsList t 1 β := by
  rw [unfolds_made_iff hready.made_last]
  simp only [expands_lastSteps hl hcx, List.append_nil]
  have hstays : ∀ {body later}, l.IsList t 1 body →
      (Unfolds rules body later β ↔ later = [] ∧ β = body) := by
    intro body later hbody
    have h : Unfolds rules (body ++ []) later β ↔ ∃ rest, β = body ++ rest ∧
        Unfolds rules [] later rest :=
      unfolds_item_iff hready.items (listForm_one_iff.mp hbody)
    rw [List.append_nil] at h
    rw [h]
    simp only [unfolds_nil_iff]
    constructor
    · intro h
      obtain ⟨rest, rfl, rfl, rfl⟩ := h
      exact ⟨rfl, List.append_nil _⟩
    · intro h
      obtain ⟨rfl, rfl⟩ := h
      exact ⟨[], (List.append_nil _).symm, rfl, rfl⟩
  constructor
  · intro h
    obtain ⟨body, later, rfl, hbody, h⟩ := h
    obtain ⟨rfl, rfl⟩ := (hstays hbody).mp h
    exact ⟨rfl, hbody⟩
  · intro h
    obtain ⟨rfl, hβ⟩ := h
    exact ⟨β, [], rfl, hβ, (hstays hβ).mpr ⟨rfl, rfl⟩⟩

omit hl hcx in
theorem unfolds_more_iff : Unfolds rules [.rule more] choices β ↔
    ∃ later, choices = more :: later ∧ l.Chain rules last more 1 later β := by
  rw [unfolds_made_iff hready.made_more, moreSteps_eq]
  simp only [List.append_nil]
  constructor
  · intro h
    obtain ⟨body, later, rfl, hbody, h⟩ := h
    exact ⟨later, rfl, body, hbody, h⟩
  · intro h
    obtain ⟨later, rfl, body, hbody, h⟩ := h
    exact ⟨body, later, rfl, hbody, h⟩

omit hl hcx hready in
theorem chain_zero_iff : l.Chain rules last more 0 choices β ↔
    Unfolds rules [.rule last] choices β ∨ Unfolds rules [.rule more] choices β := by
  have hsteps : l.chainSteps 0 last more = [.nonTerminal [last, more]] := rfl
  simp only [Chain, hsteps, expands_cons_iff, expands_nil_iff, mem_symbols_nonTerminal]
  constructor
  · intro h
    obtain ⟨_, ⟨_, ⟨q, hq, rfl⟩, _, rfl, rfl⟩, h⟩ := h
    rcases List.mem_cons.mp hq with rfl | hq
    · exact Or.inl h
    · rw [List.mem_singleton.mp hq] at h
      exact Or.inr h
  · intro h
    rcases h with h | h
    · exact ⟨_, ⟨_, ⟨last, by simp, rfl⟩, [], rfl, rfl⟩, h⟩
    · exact ⟨_, ⟨_, ⟨more, by simp, rfl⟩, [], rfl, rfl⟩, h⟩

omit hl hcx hready in
theorem path_succ {n : Nat} (hn : 1 ≤ n) : path last more (n + 1) = more :: path last more n := by
  obtain ⟨m, rfl⟩ := Nat.exists_eq_add_of_le' hn
  rfl

/-- The pair of rules makes all lists that are not empty. -/
theorem chain_zero_iff_isList : l.Chain rules last more 0 choices β ↔
    ∃ n, 1 ≤ n ∧ choices = path last more n ∧ l.IsList t n β := by
  rw [chain_zero_iff]
  constructor
  · -- by the rules that are still to be replaced
    intro h
    induction choices generalizing β with
    | nil =>
      rcases h with h | h
      · obtain ⟨h, -⟩ := (unfolds_last_iff hl hcx hready).mp h
        cases h
      · obtain ⟨later, h, -⟩ := (unfolds_more_iff hready).mp h
        cases h
    | cons c choices ih =>
      rcases h with h | h
      · obtain ⟨hchoices, hβ⟩ := (unfolds_last_iff hl hcx hready).mp h
        exact ⟨1, Nat.le_refl 1, hchoices, hβ⟩
      · obtain ⟨later, heq, h⟩ := (unfolds_more_iff hready).mp h
        obtain ⟨rfl, rfl⟩ := List.cons.inj heq
        obtain ⟨first, rest, rfl, hfirst, h⟩ := (chain_succ_iff hl hcx hready).mp h
        obtain ⟨n, hn, rfl, hrest⟩ := ih (chain_zero_iff.mp h)
        exact ⟨n + 1, by omega, (path_succ hn).symm,
          (listForm_succ_iff hn).mpr ⟨first, rest, rfl, hfirst, hrest⟩⟩
  · intro h
    obtain ⟨n, hn, rfl, hβ⟩ := h
    induction n, hn using Nat.le_induction generalizing β with
    | base => exact Or.inl ((unfolds_last_iff hl hcx hready).mpr ⟨rfl, hβ⟩)
    | succ n hn ih =>
      obtain ⟨first, rest, rfl, hfirst, hrest⟩ := (listForm_succ_iff hn).mp hβ
      rw [path_succ hn]
      exact Or.inr ((unfolds_more_iff hready).mpr ⟨_, rfl, (chain_succ_iff hl hcx hready).mpr
        ⟨first, rest, rfl, hfirst, chain_zero_iff.mpr (ih hrest)⟩⟩)

/-- With `m` elements in front, the pair of rules makes all lists that are longer. -/
theorem chain_iff_isList {m : Nat} : l.Chain rules last more m choices β ↔
    ∃ n, m + 1 ≤ n ∧ choices = path last more (n - m) ∧ l.IsList t n β := by
  induction m generalizing β with
  | zero => exact chain_zero_iff_isList hl hcx hready
  | succ m ih =>
    rw [chain_succ_iff hl hcx hready]
    simp only [ih]
    constructor
    · intro h
      obtain ⟨first, rest, rfl, hfirst, n, hn, rfl, hrest⟩ := h
      refine ⟨n + 1, by omega, by rw [Nat.add_sub_add_right], ?_⟩
      exact (listForm_succ_iff (by omega)).mpr ⟨first, rest, rfl, hfirst, hrest⟩
    · intro h
      obtain ⟨n, hn, rfl, hβ⟩ := h
      obtain ⟨n, rfl⟩ : ∃ n', n = n' + 1 := ⟨n - 1, by omega⟩
      obtain ⟨first, rest, rfl, hfirst, hrest⟩ := (listForm_succ_iff (by omega)).mp hβ
      exact ⟨first, rest, rfl, hfirst, n, by omega, by rw [Nat.add_sub_add_right], hrest⟩

omit hl hcx hready in
theorem unfolds_nonTerminal_iff {rs : List RuleId} :
    (∃ x ∈ (Step.nonTerminal rs).symbols, Unfolds rules [x] choices β) ↔
      ∃ q ∈ rs, Unfolds rules [.rule q] choices β := by
  simp only [mem_symbols_nonTerminal]
  constructor
  · intro h
    obtain ⟨_, ⟨q, hq, rfl⟩, h⟩ := h
    exact ⟨q, hq, h⟩
  · intro h
    obtain ⟨q, hq, h⟩ := h
    exact ⟨_, ⟨q, hq, rfl⟩, h⟩

omit hready in
/-- What the step of a list unfolds to: the lists that are long enough, each in one
way. -/
theorem unfolds_step_iff {lists : ListRules} {st : Step} (hst : lists.ListStep l st)
    (hpair : ∀ last more, lists.pairs.get? l.key = some (last, more) → l.Ready rules last more)
    (hleading : ∀ last more id, lists.Has id (l.leadingSteps last more) →
      MadeForList rules id (l.leadingSteps last more)) :
    ∃ choice : Nat → List RuleId, ∀ choices β,
      (∃ x ∈ st.symbols, Unfolds rules [x] choices β) ↔
        ∃ n, max l.min 1 ≤ n ∧ choices = choice n ∧ l.IsList t n β := by
  cases hst with
  | @any last more hp hmin =>
    refine ⟨path last more, fun choices β => ?_⟩
    rw [unfolds_nonTerminal_iff, Nat.max_eq_right hmin,
      ← chain_zero_iff_isList hl hcx (hpair last more hp), chain_zero_iff]
    simp
  | @two last more hp hmin =>
    refine ⟨path last more, fun choices β => ?_⟩
    have hready := hpair last more hp
    rw [unfolds_nonTerminal_iff, hmin]
    simp only [List.mem_singleton, exists_eq_left, unfolds_more_iff hready,
      chain_iff_isList hl hcx hready]
    constructor
    · intro h
      obtain ⟨_, rfl, n, hn, rfl, hβ⟩ := h
      exact ⟨n, hn, by rw [← path_succ (by omega), Nat.sub_add_cancel (by omega)], hβ⟩
    · intro h
      obtain ⟨n, hn, rfl, hβ⟩ := h
      have hn : 2 ≤ n := hn
      refine ⟨path last more (n - 1), ?_, n, hn, rfl, hβ⟩
      rw [← path_succ (by omega), Nat.sub_add_cancel (by omega)]
  | @many last more id hp hmin hhas =>
    refine ⟨fun n => id :: path last more (n - (l.min - 1)), fun choices β => ?_⟩
    have hready := hpair last more hp
    have hchain : ∀ later, l.Chain rules last more (l.min - 1) later β ↔
        ∃ n, max l.min 1 ≤ n ∧ later = path last more (n - (l.min - 1)) ∧ l.IsList t n β := by
      intro later
      rw [chain_iff_isList hl hcx hready, Nat.sub_add_cancel (by omega),
        Nat.max_eq_left (by omega)]
    rw [unfolds_nonTerminal_iff]
    simp only [List.mem_singleton, exists_eq_left, unfolds_made_iff (hleading last more id hhas),
      List.append_nil]
    constructor
    · intro h
      obtain ⟨body, later, rfl, hbody, h⟩ := h
      obtain ⟨n, hn, rfl, hβ⟩ := (hchain later).mp ⟨body, hbody, h⟩
      exact ⟨n, hn, rfl, hβ⟩
    · intro h
      obtain ⟨n, hn, rfl, hβ⟩ := h
      obtain ⟨body, hbody, h⟩ := (hchain _).mpr ⟨n, hn, rfl, hβ⟩
      exact ⟨body, _, rfl, hbody, h⟩

end Unfolding
end ListPlan

/-! ## The lists of a compiled grammar -/

namespace Parts.Made

variable {p : Parts} {options : Options} {tokens : TokenTable} {d : Declaration} {eos : TokenId}
  (hp : p.Made options tokens d)
include hp

theorem declared_descends : ∀ r ∈ p.declared, ∃ decl dcl,
    (p.context tokens d).Descends p.lists d.rules r decl dcl :=
  Context.rules_descend (ListRules.sound_startingAt _ _) hp.exists_decl hp.rules_eq

theorem lists_synthetic : p.lists.Synthetic :=
  Context.rules_synthetic (by simp [ListRules.Synthetic, ListRules.startingAt, ListRules.rules])
    hp.rules_eq

/-- The rules with token sets are told apart by their ids. -/
theorem eq_of_id_eq {r r' : Rule} (hr : r ∈ settledRules tokens.size eos p.rules)
    (hr' : r' ∈ settledRules tokens.size eos p.rules) (h : r.id = r'.id) : r = r' := by
  obtain ⟨i, q, hq, rfl⟩ := mem_settledRules_iff.mp hr
  obtain ⟨i', q', hq', rfl⟩ := mem_settledRules_iff.mp hr'
  have hi : i = i' := by
    have h1 := hp.good.id_eq hq
    have h2 := hp.good.id_eq hq'
    have h : q.id = q'.id := h
    grind
  subst hi
  rw [hq] at hq'
  cases hq'
  rfl

/-- Rules of lists stay such rules when they get their token sets. -/
theorem madeForList_of_has {id : RuleId} {steps : List Step} (h : p.lists.Has id steps) :
    MadeForList (settledRules tokens.size eos p.rules) id steps := by
  obtain ⟨q, hq, rfl, rfl⟩ := h
  obtain ⟨i, hi⟩ := List.getElem?_of_mem (List.mem_append_right p.declared hq)
  have hmem : settledRule tokens.size eos p.rules i q ∈ settledRules tokens.size eos p.rules :=
    mem_settledRules_iff.mpr ⟨i, q, hi, rfl⟩
  exact ⟨_, hmem, rfl, hp.lists_synthetic q hq, rfl, fun r' hr' hid => hp.eq_of_id_eq hr' hmem hid⟩

/-- Elements of lists are declared rules. -/
theorem stays_of_rulesOfKind {k : Kind} {cap : Option Nat} {rs : List RuleId}
    (hrs : p.numbering.ranks.rulesOfKind? k cap = some rs) {q : RuleId} (hq : q ∈ rs) :
    Stays (settledRules tokens.size eos p.rules) q := by
  obtain ⟨j, hj, rfl⟩ := hp.good.exists_variant_of_rulesOfKind hrs hq
  intro r hr hid
  obtain ⟨i, r', hr', rfl⟩ := mem_settledRules_iff.mp hr
  have hi : i = j := by
    have h1 := hp.good.id_eq hr'
    have hid : r'.id = tokens.size + j := hid
    grind
  subst hi
  have hmem : r' ∈ p.declared := by
    rw [Parts.rules, List.getElem?_append_left hj] at hr'
    exact List.mem_of_getElem? hr'
  obtain ⟨decl, dcl, hdescends⟩ := hp.declared_descends r' hmem
  show r'.origin.isSynthetic = false
  rw [hdescends.origin]
  rfl

/-- The pair on record for a list is ready to unfold it. -/
theorem ready_of_pair {l : ListPlan} (hl : l.Fits (p.context tokens d)) {last more : RuleId}
    (h : p.lists.pairs.get? l.key = some (last, more)) :
    l.Ready (settledRules tokens.size eos p.rules) last more := by
  obtain ⟨l', hl', hkey, hlast, hmore⟩ := hp.good.sound.paired _ _ _ h
  rw [hl'.lastSteps_eq_of_key hl hkey] at hlast
  rw [hl'.moreSteps_eq_of_key hl hkey] at hmore
  exact ⟨fun q hq => hp.stays_of_rulesOfKind hl.items_eq hq, hp.madeForList_of_has hlast,
    hp.madeForList_of_has hmore⟩

end Parts.Made

theorem getElem?_of_forall₂ {α β : Type} {R : α → β → Prop} {as : List α} {bs : List β}
    (h : List.Forall₂ R as bs) {k : Nat} {a : α} (ha : as[k]? = some a) :
    ∃ b, bs[k]? = some b ∧ R a b := by
  induction h generalizing k with
  | nil => cases ha
  | cons hab _ ih =>
    cases k with
    | zero =>
      cases ha
      exact ⟨_, rfl, hab⟩
    | succ k => exact ih ha

section Grammars

variable {options : Options} {tokens : TokenTable} {d : Declaration} {start : String} {g : Grammar}

/-- **List parameters.** In the rule of a variant, the step of a list parameter
unfolds to the lists with enough elements, at least one, and to nothing else. Every
list comes out in exactly one way. -/
theorem list_unfolds_iff (h : (compile options tokens d start).outcome = .ok g) {r : Rule}
    (hr : r ∈ g.rules) {action : String} {decl : Nat} (horigin : r.origin = .declared action decl) :
    ∃ dcl, d.rules[decl]? = some dcl ∧ r.steps.length = (dcl.present r.args).length ∧
      ∀ (k : Nat) (name : String) (el : Kind) (cap : Option Nat) (m : Nat) (δ : Option Delimiter),
        (dcl.present r.args)[k]? = some ⟨name, .list el cap m δ⟩ →
        ∃ st, r.steps[k]? = some st ∧ ∀ β,
          ((∃ choices, ∃ x ∈ st.symbols, Unfolds g.rules [x] choices β) ↔
            ∃ n, max m 1 ≤ n ∧ ListForm δ (· ∈ g.rulesOfKind el cap)
              (fun c => ∃ p ∈ δ, tokens.CanStandFor p.token c) n β) ∧
          ((∃ choices, ∃ x ∈ st.symbols, Unfolds g.rules [x] choices β) →
            ∃! choices, ∃ x ∈ st.symbols, Unfolds g.rules [x] choices β) := by
  obtain ⟨p, hp, -, -, -, hg⟩ := compile_made h
  have hrules : g.rules = settledRules tokens.size g.endOfStream p.rules :=
    congrArg Grammar.rules hg
  have hranks : g.ranks = p.numbering.ranks := congrArg Grammar.ranks hg
  rw [hrules] at hr ⊢
  obtain ⟨i, r', hr', rfl⟩ := mem_settledRules_iff.mp hr
  have hdeclared : r' ∈ p.declared := by
    rcases List.mem_append.mp (List.mem_of_getElem? hr') with hmem | hmem
    · exact hmem
    · have hsynthetic := hp.lists_synthetic r' hmem
      rw [show r'.origin = .declared action decl from horigin] at hsynthetic
      cases hsynthetic
  obtain ⟨decl', dcl, hget, horigin', hlowers⟩ := hp.declared_descends r' hdeclared
  rw [show r'.origin = .declared action decl from horigin] at horigin'
  cases horigin'
  refine ⟨dcl, hget, hlowers.length_eq.symm, fun k name el cap m δ hk => ?_⟩
  obtain ⟨st, hst, hlower⟩ := getElem?_of_forall₂ hlowers hk
  refine ⟨st, hst, ?_⟩
  cases hlower with
  | @list l _ hl hstep =>
    have hready : ∀ last more, p.lists.pairs.get? l.key = some (last, more) →
        l.Ready (settledRules tokens.size g.endOfStream p.rules) last more :=
      fun last more hpair => hp.ready_of_pair hl hpair
    obtain ⟨choice, hchoice⟩ := ListPlan.unfolds_step_iff (t := tokens) hl rfl hstep hready
      fun last more id hhas => hp.madeForList_of_has hhas
    have hitems : g.rulesOfKind l.key.element l.key.maxRank = l.items := by
      rw [Grammar.rulesOfKind, hranks, show p.numbering.ranks = (p.context tokens d).ranks from rfl,
        hl.items_eq, Option.getD_some]
    intro β
    simp only [hchoice, hitems]
    refine ⟨?_, ?_⟩
    · constructor
      · intro hunfolds
        obtain ⟨_, n, hn, -, hβ⟩ := hunfolds
        exact ⟨n, hn, hβ⟩
      · intro hlist
        obtain ⟨n, hn, hβ⟩ := hlist
        exact ⟨choice n, n, hn, rfl, hβ⟩
    · intro hunfolds
      obtain ⟨_, n, hn, -, hβ⟩ := hunfolds
      refine ⟨choice n, ⟨n, hn, rfl, hβ⟩, ?_⟩
      intro choices hchoices
      obtain ⟨m, -, rfl, hm⟩ := hchoices
      rw [ListForm.length_eq hm hβ]

/-- Two items with a comma between them are an enumeration, in one way; an item with
a comma after it is none. -/
theorem list_unfolds_of_enumeration :
    (∃! choices, ∃ x ∈ (Step.nonTerminal [5, 6]).symbols,
      Unfolds enumerationGrammar.rules [x] choices [.rule 4, .token 2, .rule 4]) ∧
    ¬ ∃ choices, ∃ x ∈ (Step.nonTerminal [5, 6]).symbols,
      Unfolds enumerationGrammar.rules [x] choices [.rule 4, .token 2] := by
  have hall : ⟨3, ⟨0, 0⟩, .declared "enumeration" 0, [.nonTerminal [5, 6]], [true], [1], [0]⟩ ∈
      enumerationGrammar.rules := by decide
  obtain ⟨dcl, hdcl, -, hlists⟩ := list_unfolds_iff compile_enumeration hall rfl
  cases hdcl
  obtain ⟨st, hst, hforms⟩ := hlists 0 "items" 1 none 1 (some (.separator 2)) rfl
  cases hst
  have hitems : enumerationGrammar.rulesOfKind 1 none = [4] := by cbv
  have hcomma : enumerationTokens.CanStandFor 2 2 := .refl
  have htwo := (hforms [.rule 4, .token 2, .rule 4]).1.mpr ⟨2, by decide, [4, 4], [2], rfl,
    by simp [hitems], by simpa [Delimiter.token] using hcomma, rfl, rfl⟩
  refine ⟨(hforms _).2 htwo, fun h => ?_⟩
  obtain ⟨n, -, es, ts, rfl, -, -, hts, heq⟩ := (hforms _).1.mp h
  have hts : ts.length = es.length - 1 := hts
  rcases es with _ | ⟨e, _ | ⟨e', es⟩⟩
  · rw [List.eq_nil_of_length_eq_zero hts] at heq
    cases heq
  · rw [List.eq_nil_of_length_eq_zero hts] at heq
    cases heq
  · obtain ⟨t, ts, rfl⟩ := List.exists_cons_of_length_eq_add_one hts
    cases ts <;> cases heq

end Grammars
end GrammarKit.Compile
