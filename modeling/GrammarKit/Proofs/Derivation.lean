import GrammarKit.Rule
import Mathlib.Logic.Relation

/-!
# Derivations

The rules of a grammar rewrite *forms*, sequences of tokens and rules: a rule in
a form gives way to one alternative of each of its steps. `Derives` is any number
of such rewritings.

Two ways to reason about derivations come from here.

* `Front`: the tokens that can stand in front of a form, for some family of
  starting tokens and of rules that may vanish. Rewriting adds nothing to the
  front (`front_of_rewrites`) as long as the family is closed under the rules.
* `Spells`: the words that a sequence stands for, given the words of its items.
  A family of words that is closed under the rules has all words that a rule
  derives (`closed_of_derives`), and the derivable words are such a family
  (`closed_words`).
-/
namespace GrammarKit

open Relation (ReflTransGen)

/-- A symbol of a form. -/
inductive Symbol where
  | token (t : TokenId)
  | rule (r : RuleId)
  deriving DecidableEq, Repr

/-- A sequence of tokens and rules. -/
abbrev Form := List Symbol

/-- The alternatives of a step. -/
def Step.symbols : Step → List Symbol
  | .terminal ts => ts.map .token
  | .nonTerminal rs => rs.map .rule

@[simp] theorem mem_symbols_terminal {ts : List TokenId} {x : Symbol} :
    x ∈ (Step.terminal ts).symbols ↔ ∃ t ∈ ts, x = .token t := by
  simp [Step.symbols, eq_comm]

@[simp] theorem mem_symbols_nonTerminal {rs : List RuleId} {x : Symbol} :
    x ∈ (Step.nonTerminal rs).symbols ↔ ∃ r ∈ rs, x = .rule r := by
  simp [Step.symbols, eq_comm]

/-- The form has one alternative of each step. -/
inductive Expands : List Step → Form → Prop where
  | nil : Expands [] []
  | cons {s : Step} {x : Symbol} {steps : List Step} {body : Form} :
      x ∈ s.symbols → Expands steps body → Expands (s :: steps) (x :: body)

theorem expands_nil_iff {body : Form} : Expands [] body ↔ body = [] := by
  constructor
  · intro h
    cases h
    rfl
  · intro h
    rw [h]
    exact .nil

theorem expands_cons_iff {s : Step} {steps : List Step} {body : Form} :
    Expands (s :: steps) body ↔ ∃ x ∈ s.symbols, ∃ rest, body = x :: rest ∧ Expands steps rest := by
  constructor
  · intro h
    cases h with
    | cons hx h => exact ⟨_, hx, _, rfl, h⟩
  · intro h
    obtain ⟨x, hx, rest, rfl, h⟩ := h
    exact .cons hx h

/-- Every symbol of an expansion is an alternative of some step. -/
theorem Expands.exists_step {steps : List Step} {body : Form} (h : Expands steps body) {x : Symbol}
    (hx : x ∈ body) : ∃ s ∈ steps, x ∈ s.symbols := by
  induction h with
  | nil => cases hx
  | cons hs _ ih =>
    rcases List.mem_cons.mp hx with rfl | hx
    · exact ⟨_, List.mem_cons_self, hs⟩
    · obtain ⟨s, hs, hx⟩ := ih hx
      exact ⟨s, List.mem_cons_of_mem _ hs, hx⟩

/-- Two sequences of steps expand one after the other. -/
theorem Expands.append {steps steps' : List Step} {body body' : Form}
    (h : Expands steps body) (h' : Expands steps' body') :
    Expands (steps ++ steps') (body ++ body') := by
  induction h with
  | nil => exact h'
  | cons hx _ ih => exact .cons hx ih

/-- An expansion of two sequences of steps falls into an expansion of each. -/
theorem Expands.split {steps steps' : List Step} {body : Form}
    (h : Expands (steps ++ steps') body) :
    ∃ left right, body = left ++ right ∧ Expands steps left ∧ Expands steps' right := by
  induction steps generalizing body with
  | nil => exact ⟨[], body, rfl, .nil, h⟩
  | cons s steps ih =>
    cases h with
    | cons hx h =>
      obtain ⟨left, right, rfl, hl, hr⟩ := ih h
      exact ⟨_ :: left, right, rfl, .cons hx hl, hr⟩

theorem expands_append_iff {steps steps' : List Step} {body : Form} :
    Expands (steps ++ steps') body ↔
      ∃ left right, body = left ++ right ∧ Expands steps left ∧ Expands steps' right := by
  constructor
  · exact Expands.split
  · intro h
    obtain ⟨left, right, rfl, hl, hr⟩ := h
    exact hl.append hr

/-- Puts one alternative of each step of a rule in the place of the rule. -/
inductive Rewrites (rules : List Rule) : Form → Form → Prop where
  | intro {r : Rule} {body : Form} (before after : Form) :
      r ∈ rules → Expands r.steps body →
      Rewrites rules (before ++ .rule r.id :: after) (before ++ body ++ after)

/-- Rewrites any number of times. -/
def Derives (rules : List Rule) : Form → Form → Prop := ReflTransGen (Rewrites rules)

namespace Derives

variable {rules : List Rule} {α β γ : Form}

theorem refl (α : Form) : Derives rules α α := ReflTransGen.refl

theorem trans (h : Derives rules α β) (k : Derives rules β γ) : Derives rules α γ :=
  ReflTransGen.trans h k

/-- A rule derives its expansions. -/
theorem of_expands {r : Rule} {body : Form} (hr : r ∈ rules) (h : Expands r.steps body) :
    Derives rules [.rule r.id] body := by
  have := Rewrites.intro [] [] hr h
  rw [List.nil_append, List.nil_append, List.append_nil] at this
  exact ReflTransGen.single this

theorem append_left (pre : Form) (h : Derives rules α β) : Derives rules (pre ++ α) (pre ++ β) := by
  refine ReflTransGen.lift (pre ++ ·) ?_ _ _ h
  intro _ _ hs
  obtain ⟨before, after, hr, hb⟩ := hs
  have := Rewrites.intro (pre ++ before) after hr hb
  simpa only [List.append_assoc] using this

theorem append_right (post : Form) (h : Derives rules α β) :
    Derives rules (α ++ post) (β ++ post) := by
  refine ReflTransGen.lift (· ++ post) ?_ _ _ h
  intro _ _ hs
  obtain ⟨before, after, hr, hb⟩ := hs
  have := Rewrites.intro before (after ++ post) hr hb
  simpa only [Function.onFun, List.append_assoc, List.cons_append] using this

theorem append {α' β' : Form} (h : Derives rules α α') (k : Derives rules β β') :
    Derives rules (α ++ β) (α' ++ β') :=
  (h.append_right β).trans (k.append_left α')

end Derives

/-- Derivations use nothing of a rule but its id and its steps. -/
theorem derives_mono {rules rules' : List Rule}
    (h : ∀ r ∈ rules, ∃ r' ∈ rules', r'.id = r.id ∧ r'.steps = r.steps) {α β : Form}
    (hd : Derives rules α β) : Derives rules' α β := by
  refine ReflTransGen.mono ?_ _ _ hd
  intro _ _ hs
  obtain ⟨before, after, hr, hb⟩ := hs
  obtain ⟨r', hr', hid, hsteps⟩ := h _ hr
  rw [← hid]
  exact Rewrites.intro before after hr' (by rw [hsteps]; exact hb)

/-- A token that comes up in a derivation is in some step. -/
theorem exists_step_of_derives {rules : List Rule} {α β : Form} (hd : Derives rules α β)
    {t : TokenId} (ht : .token t ∈ β) :
    .token t ∈ α ∨ ∃ r ∈ rules, ∃ s ∈ r.steps, .token t ∈ s.symbols := by
  induction hd with
  | refl => exact Or.inl ht
  | tail _ hlast ih =>
    obtain ⟨before, after, hr, hb⟩ := hlast
    rcases List.mem_append.mp ht with ht | ht
    · rcases List.mem_append.mp ht with ht | ht
      · exact ih (List.mem_append_left _ ht)
      · exact Or.inr ⟨_, hr, hb.exists_step ht⟩
    · exact ih (List.mem_append_right _ (List.mem_cons_of_mem _ ht))

/-- The tokens that the step accepts are below the bound. -/
def Step.TokensBelow (bound : TokenId) : Step → Prop
  | .terminal ts => ∀ t ∈ ts, t < bound
  | .nonTerminal _ => True

/-- Tokens come into derivations by steps. -/
theorem token_lt_of_derives {bound : TokenId} {rules : List Rule}
    (hbelow : ∀ r ∈ rules, ∀ s ∈ r.steps, s.TokensBelow bound) {q : RuleId} {β : Form}
    (hd : Derives rules [.rule q] β) {t : TokenId} (ht : .token t ∈ β) : t < bound := by
  rcases exists_step_of_derives hd ht with ht | ⟨r, hr, s, hs, ht⟩
  · simp at ht
  · have hstep := hbelow r hr s hs
    cases s with
    | terminal ts =>
      obtain ⟨t', ht', heq⟩ := mem_symbols_terminal.mp ht
      cases heq
      exact hstep t ht'
    | nonTerminal rs =>
      obtain ⟨q, -, heq⟩ := mem_symbols_nonTerminal.mp ht
      cases heq

/-! ## Steps that vanish -/

/-- Some alternative of the step derives nothing. -/
def Step.Vanishes (rules : List Rule) : Step → Prop
  | .terminal _ => False
  | .nonTerminal rs => ∃ r ∈ rs, Derives rules [.rule r] []

/-- Steps that all vanish expand to a form that derives nothing. -/
theorem exists_expands_of_vanishes {rules : List Rule} {steps : List Step}
    (h : ∀ s ∈ steps, s.Vanishes rules) : ∃ body, Expands steps body ∧ Derives rules body [] := by
  induction steps with
  | nil => exact ⟨[], .nil, .refl []⟩
  | cons s steps ih =>
    obtain ⟨body, hb, hd⟩ := ih fun s' hs' => h s' (List.mem_cons_of_mem s hs')
    have hs := h s List.mem_cons_self
    cases s with
    | terminal ts => exact hs.elim
    | nonTerminal rs =>
      obtain ⟨r, hr, hnil⟩ := hs
      exact ⟨.rule r :: body, .cons (by simpa using hr) hb, hnil.append hd⟩

/-- Steps without alternatives apart, every sequence of steps expands to something. -/
theorem exists_expands {steps : List Step} (h : ∀ s ∈ steps, s.sources ≠ []) :
    ∃ body, Expands steps body := by
  induction steps with
  | nil => exact ⟨[], .nil⟩
  | cons s steps ih =>
    obtain ⟨body, hb⟩ := ih fun s' hs' => h s' (List.mem_cons_of_mem s hs')
    have hs := h s List.mem_cons_self
    cases s with
    | terminal ts =>
      obtain ⟨t, ht⟩ := List.exists_mem_of_ne_nil ts hs
      exact ⟨.token t :: body, .cons (by simpa using ht) hb⟩
    | nonTerminal rs =>
      obtain ⟨r, hr⟩ := List.exists_mem_of_ne_nil rs hs
      exact ⟨.rule r :: body, .cons (by simpa using hr) hb⟩

/-! ## What stands in front of a form -/

/-- Whether a token can stand in front of a form, for rules that start with the
tokens `F` and vanish as `N` says. -/
def Front (N : RuleId → Prop) (F : RuleId → TokenId → Prop) (t : TokenId) : Form → Prop
  | [] => False
  | .token u :: _ => t = u
  | .rule r :: rest => F r t ∨ (N r ∧ Front N F t rest)

/-- Whether a form can vanish. -/
def Open (N : RuleId → Prop) : Form → Prop
  | [] => True
  | .token _ :: _ => False
  | .rule r :: rest => N r ∧ Open N rest

section Front

variable {N : RuleId → Prop} {F : RuleId → TokenId → Prop} {t : TokenId} {rules : List Rule}

theorem open_append {α β : Form} : Open N (α ++ β) ↔ Open N α ∧ Open N β := by
  induction α with
  | nil => simp [Open]
  | cons x α ih => cases x <;> simp [Open, ih, and_assoc]

theorem front_append {α β : Form} :
    Front N F t (α ++ β) ↔ Front N F t α ∨ (Open N α ∧ Front N F t β) := by
  induction α with
  | nil => simp [Front, Open]
  | cons x α ih =>
    cases x with
    | token u => simp [Front, Open]
    | rule r =>
      simp only [List.cons_append, Front, Open, ih]
      constructor
      · intro h
        rcases h with h | ⟨hn, h | ⟨ho, h⟩⟩
        · exact Or.inl (Or.inl h)
        · exact Or.inl (Or.inr ⟨hn, h⟩)
        · exact Or.inr ⟨⟨hn, ho⟩, h⟩
      · intro h
        rcases h with (h | ⟨hn, h⟩) | ⟨⟨hn, ho⟩, h⟩
        · exact Or.inl h
        · exact Or.inr ⟨hn, Or.inl h⟩
        · exact Or.inr ⟨hn, Or.inr ⟨ho, h⟩⟩

/-- A family of vanishing rules that the rules respect. -/
def OpenClosed (rules : List Rule) (N : RuleId → Prop) : Prop :=
  ∀ r ∈ rules, ∀ body, Expands r.steps body → Open N body → N r.id

/-- A family of starting tokens that the rules respect. -/
def FrontClosed (rules : List Rule) (N : RuleId → Prop) (F : RuleId → TokenId → Prop) : Prop :=
  ∀ r ∈ rules, ∀ body t, Expands r.steps body → Front N F t body → F r.id t

/-- What can vanish after rewriting could vanish before. -/
theorem open_of_rewrites (hN : OpenClosed rules N) {α β : Form} (h : Rewrites rules α β)
    (ho : Open N β) : Open N α := by
  obtain ⟨before, after, hr, hb⟩ := h
  simp only [open_append, Open] at ho ⊢
  obtain ⟨⟨ho1, ho2⟩, ho3⟩ := ho
  exact ⟨ho1, hN _ hr _ hb ho2, ho3⟩

theorem open_of_derives (hN : OpenClosed rules N) {α β : Form} (h : Derives rules α β)
    (ho : Open N β) : Open N α := by
  induction h using ReflTransGen.head_induction_on with
  | refl => exact ho
  | head hs _ ih => exact open_of_rewrites hN hs ih

/-- What stands in front after rewriting stood in front before. -/
theorem front_of_rewrites (hN : OpenClosed rules N) (hF : FrontClosed rules N F) {α β : Form}
    (h : Rewrites rules α β) (hf : Front N F t β) : Front N F t α := by
  obtain ⟨before, after, hr, hb⟩ := h
  rw [List.append_assoc] at hf
  simp only [front_append, Front] at hf ⊢
  rcases hf with hf | ⟨ho, hf | ⟨hbo, hf⟩⟩
  · exact Or.inl hf
  · exact Or.inr ⟨ho, Or.inl (hF _ hr _ t hb hf)⟩
  · exact Or.inr ⟨ho, Or.inr ⟨hN _ hr _ hb hbo, hf⟩⟩

theorem front_of_derives (hN : OpenClosed rules N) (hF : FrontClosed rules N F) {α β : Form}
    (h : Derives rules α β) (hf : Front N F t β) : Front N F t α := by
  induction h using ReflTransGen.head_induction_on with
  | refl => exact hf
  | head hs _ ih => exact front_of_rewrites hN hF hs ih

end Front

/-! ## Words -/

/-- The word is made of one word for each item, in order. -/
def Spells {ι : Type} (P : ι → List TokenId → Prop) : List ι → List TokenId → Prop
  | [], w => w = []
  | i :: rest, w => ∃ u v, w = u ++ v ∧ P i u ∧ Spells P rest v

section Spells

variable {ι : Type} {P Q : ι → List TokenId → Prop}

theorem spells_append {is js : List ι} {w : List TokenId} :
    Spells P (is ++ js) w ↔ ∃ u v, w = u ++ v ∧ Spells P is u ∧ Spells P js v := by
  induction is generalizing w with
  | nil =>
    constructor
    · intro h; exact ⟨[], w, rfl, rfl, h⟩
    · intro h
      obtain ⟨_, v, rfl, rfl, h⟩ := h
      exact h
  | cons i is ih =>
    simp only [List.cons_append, Spells, ih]
    constructor
    · intro h
      obtain ⟨u, _, rfl, hu, v, x, rfl, hv, hx⟩ := h
      exact ⟨u ++ v, x, by simp, ⟨u, v, rfl, hu, hv⟩, hx⟩
    · intro h
      obtain ⟨_, x, rfl, ⟨u, v, rfl, hu, hv⟩, hx⟩ := h
      exact ⟨u, v ++ x, by simp, hu, v, x, rfl, hv, hx⟩

@[simp] theorem spells_singleton {i : ι} {w : List TokenId} : Spells P [i] w ↔ P i w := by
  simp [Spells]

end Spells

/-- The words of a symbol, given those of the rules. -/
def Symbol.Reads (L : RuleId → List TokenId → Prop) : Symbol → List TokenId → Prop
  | .token t, w => w = [t]
  | .rule r, w => L r w

/-- The words of a step, given those of the rules. -/
def Step.Reads (L : RuleId → List TokenId → Prop) : Step → List TokenId → Prop
  | .terminal ts, w => ∃ t ∈ ts, w = [t]
  | .nonTerminal rs, w => ∃ r ∈ rs, L r w

theorem reads_iff {L : RuleId → List TokenId → Prop} {s : Step} {w : List TokenId} :
    s.Reads L w ↔ ∃ x ∈ s.symbols, x.Reads L w := by
  cases s with
  | terminal ts =>
    constructor
    · intro h
      obtain ⟨t, ht, rfl⟩ := h
      exact ⟨.token t, by simpa using ht, rfl⟩
    · intro h
      obtain ⟨x, hx, hw⟩ := h
      obtain ⟨t, ht, rfl⟩ := mem_symbols_terminal.mp hx
      exact ⟨t, ht, hw⟩
  | nonTerminal rs =>
    constructor
    · intro h
      obtain ⟨r, hr, hw⟩ := h
      exact ⟨.rule r, by simpa using hr, hw⟩
    · intro h
      obtain ⟨x, hx, hw⟩ := h
      obtain ⟨r, hr, rfl⟩ := mem_symbols_nonTerminal.mp hx
      exact ⟨r, hr, hw⟩

/-- Steps stand for the words of their expansions. -/
theorem spells_steps_iff {L : RuleId → List TokenId → Prop} {steps : List Step}
    {w : List TokenId} :
    Spells (Step.Reads L) steps w ↔
      ∃ body, Expands steps body ∧ Spells (Symbol.Reads L) body w := by
  induction steps generalizing w with
  | nil =>
    constructor
    · intro h; exact ⟨[], .nil, h⟩
    · intro h
      obtain ⟨_, hb, hw⟩ := h
      cases hb
      exact hw
  | cons s steps ih =>
    constructor
    · intro h
      obtain ⟨u, v, rfl, hu, hv⟩ := h
      obtain ⟨x, hx, hu⟩ := reads_iff.mp hu
      obtain ⟨body, hb, hv⟩ := ih.mp hv
      exact ⟨x :: body, .cons hx hb, u, v, rfl, hu, hv⟩
    · intro h
      obtain ⟨_, hb, hw⟩ := h
      cases hb with
      | cons hx hb =>
        obtain ⟨u, v, rfl, hu, hv⟩ := hw
        exact ⟨u, v, rfl, reads_iff.mpr ⟨_, hx, hu⟩, ih.mpr ⟨_, hb, hv⟩⟩

/-- A family of words that the rules respect. -/
def WordClosed (rules : List Rule) (L : RuleId → List TokenId → Prop) : Prop :=
  ∀ r ∈ rules, ∀ w, Spells (Step.Reads L) r.steps w → L r.id w

/-- The words that a rule derives. -/
def Words (rules : List Rule) (r : RuleId) (w : List TokenId) : Prop :=
  Derives rules [.rule r] (w.map .token)

/-- Every word stands for itself. -/
theorem spells_tokens (L : RuleId → List TokenId → Prop) (w : List TokenId) :
    Spells (Symbol.Reads L) (w.map .token) w := by
  induction w with
  | nil => rfl
  | cons t w ih => exact ⟨[t], w, rfl, rfl, ih⟩

/-- A word that a form stands for after rewriting, it stood for before. -/
theorem spells_of_rewrites {rules : List Rule} {L : RuleId → List TokenId → Prop}
    (hL : WordClosed rules L) {α β : Form} (h : Rewrites rules α β) {w : List TokenId}
    (hw : Spells (Symbol.Reads L) β w) : Spells (Symbol.Reads L) α w := by
  obtain ⟨before, after, hr, hb⟩ := h
  rw [List.append_assoc, spells_append] at hw
  obtain ⟨u, _, rfl, hu, hw⟩ := hw
  obtain ⟨v, x, rfl, hv, hx⟩ := spells_append.mp hw
  have := hL _ hr v (spells_steps_iff.mpr ⟨_, hb, hv⟩)
  exact spells_append.mpr ⟨u, v ++ x, rfl, hu, v, x, rfl, this, hx⟩

/-- **The least family.** A family that the rules respect has every derivable word. -/
theorem closed_of_derives {rules : List Rule} {L : RuleId → List TokenId → Prop}
    (hL : WordClosed rules L) {r : RuleId} {w : List TokenId} (h : Words rules r w) : L r w := by
  have hback : ∀ α, Derives rules α (w.map .token) → Spells (Symbol.Reads L) α w := by
    intro α hα
    induction hα using ReflTransGen.head_induction_on with
    | refl => exact spells_tokens L w
    | head hs _ ih => exact spells_of_rewrites hL hs ih
  exact spells_singleton.mp (hback _ h)

/-- A form whose rules derive words derives their concatenation. -/
theorem derives_of_spells {rules : List Rule} {α : Form} {w : List TokenId}
    (h : Spells (Symbol.Reads (Words rules)) α w) : Derives rules α (w.map .token) := by
  induction α generalizing w with
  | nil => cases h; exact .refl []
  | cons x α ih =>
    obtain ⟨u, v, rfl, hu, hv⟩ := h
    rw [List.map_append]
    refine Derives.append (α := [x]) ?_ (ih hv)
    cases x with
    | token t => cases hu; exact .refl _
    | rule r => exact hu

/-- The derivable words are a family that the rules respect. -/
theorem closed_words (rules : List Rule) : WordClosed rules (Words rules) := by
  intro r hr w hw
  obtain ⟨body, hb, hw⟩ := spells_steps_iff.mp hw
  exact (Derives.of_expands hr hb).trans (derives_of_spells hw)

/-! ## Rule lists without loose ends -/

/-- The rules have the ids from `first` on, in order, and their steps refer to no
other rules. -/
structure Linked (first : RuleId) (rules : List Rule) : Prop where
  id_eq : ∀ i r, rules[i]? = some r → r.id = first + i
  source_bounds : ∀ r ∈ rules, ∀ rs, Step.nonTerminal rs ∈ r.steps →
    ∀ q ∈ rs, first ≤ q ∧ q < first + rules.length

namespace Linked

variable {first : RuleId} {rules : List Rule}

/-- The rule with an id in range stands at the place that the id gives it. -/
theorem exists_rule (hl : Linked first rules) {q : RuleId} (h : first ≤ q)
    (hq : q < first + rules.length) : ∃ r, rules[q - first]? = some r ∧ r.id = q := by
  have hlt : q - first < rules.length := by grind
  refine ⟨rules[q - first], List.getElem?_eq_getElem hlt, ?_⟩
  have := hl.id_eq _ _ (List.getElem?_eq_getElem hlt)
  grind

/-- Every rule of the list stands at the place that its id gives it. -/
theorem getElem?_of_mem (hl : Linked first rules) {r : Rule} (hr : r ∈ rules) :
    rules[r.id - first]? = some r := by
  obtain ⟨i, hi⟩ := List.getElem?_of_mem hr
  have := hl.id_eq i r hi
  rwa [show r.id - first = i by grind]

theorem bounds_of_mem (hl : Linked first rules) {r : Rule} (hr : r ∈ rules) :
    first ≤ r.id ∧ r.id < first + rules.length := by
  obtain ⟨i, hi⟩ := List.getElem?_of_mem hr
  have h1 := hl.id_eq i r hi
  obtain ⟨h2, -⟩ := List.getElem?_eq_some_iff.mp hi
  grind

/-- Rules with one id are one rule. -/
theorem eq_of_id_eq (hl : Linked first rules) {r r' : Rule} (hr : r ∈ rules) (hr' : r' ∈ rules)
    (h : r.id = r'.id) : r = r' := by
  have h1 := hl.getElem?_of_mem hr
  rw [h, hl.getElem?_of_mem hr'] at h1
  exact (Option.some.inj h1).symm

end Linked

end GrammarKit
