import GrammarKit.Declaration
import GrammarKit.Proofs.Token.Descendants

/-!
# What a declaration generates

The words of a kind, straight from the declaration: no variants, no rules for
lists, no token sets. This is what a compiled grammar is measured by.

`Generates` says which words a kind (at ranks up to a cap), a sequence of
parameters and a single parameter stand for. `Joined` puts the words of the
elements of a list together.
-/
namespace GrammarKit

/-- What stands between two elements of a list. -/
def Separates (t : TokenTable) : Option Delimiter → List TokenId → Prop
  | none, w => w = []
  | some d, w => ∃ c, t.CanStandFor d.token c ∧ w = [c]

/-- What stands after the last element of a list. -/
def Terminates (t : TokenTable) : Option Delimiter → List TokenId → Prop
  | some (.terminator p), w => ∃ c, t.CanStandFor p c ∧ w = [c]
  | _, w => w = []

/-- The word is made of the words of elements, with delimiters. -/
def Joined (t : TokenTable) (d : Option Delimiter) : List (List TokenId) → List TokenId → Prop
  | [], w => w = []
  | [u], w => ∃ z, Terminates t d z ∧ w = u ++ z
  | u :: u' :: us, w => ∃ z v, Separates t d z ∧ Joined t d (u' :: us) v ∧ w = u ++ (z ++ v)

theorem joined_cons_iff {t : TokenTable} {d : Option Delimiter} {u : List TokenId}
    {us : List (List TokenId)} {w : List TokenId} (hne : us ≠ []) :
    Joined t d (u :: us) w ↔ ∃ z v, Separates t d z ∧ Joined t d us v ∧ w = u ++ (z ++ v) := by
  cases us with
  | nil => exact absurd rfl hne
  | cons u' us => rfl

/-- Without a delimiter, words are put one after the other. -/
theorem joined_none_iff {t : TokenTable} {us : List (List TokenId)} {w : List TokenId} :
    Joined t none us w ↔ w = us.flatten := by
  induction us generalizing w with
  | nil => rfl
  | cons u us ih =>
    cases us with
    | nil => simp [Joined, Terminates]
    | cons u' us =>
      rw [joined_cons_iff (List.cons_ne_nil u' us)]
      simp only [Separates, ih, List.flatten_cons]
      constructor
      · intro h
        obtain ⟨_, _, rfl, rfl, rfl⟩ := h
        rfl
      · intro h
        exact ⟨[], _, rfl, rfl, h⟩

/-- What words are generated from. -/
inductive Goal where
  /-- A kind, at ranks up to a cap if there is one. -/
  | kind (k : Kind) (cap : Option Nat)
  /-- Parameters, one after the other. -/
  | params (ps : List (Param Kind))
  /-- One parameter that is present. -/
  | shape (s : Shape Kind)

/-- The words that a declaration generates. -/
inductive Generates (t : TokenTable) (d : Declaration) : Goal → List TokenId → Prop where
  /-- A rule of the kind, at a rank not above the cap, generates what its parameters do. -/
  | rule {r : RuleDecl} {cap : Option Nat} {w : List TokenId} : r ∈ d.rules →
      (∀ c ∈ cap, r.rank ≤ c) → Generates t d (.params r.params) w →
      Generates t d (.kind r.produces cap) w
  | none : Generates t d (.params []) []
  | present {p : Param Kind} {ps : List (Param Kind)} {u v : List TokenId} :
      Generates t d (.shape p.shape) u → Generates t d (.params ps) v →
      Generates t d (.params (p :: ps)) (u ++ v)
  | omitted {p : Param Kind} {ps : List (Param Kind)} {w : List TokenId} :
      p.shape.isOptional = true → Generates t d (.params ps) w →
      Generates t d (.params (p :: ps)) w
  /-- A terminal generates one of its tokens or one that can stand for it. -/
  | terminal {tokens : List TokenId} {optional : Bool} {p c : TokenId} : p ∈ tokens →
      t.CanStandFor p c → Generates t d (.shape (.terminal tokens optional)) [c]
  | nonTerminal {k : Kind} {cap : Option Nat} {optional : Bool} {w : List TokenId} :
      Generates t d (.kind k cap) w → Generates t d (.shape (.nonTerminal k cap optional)) w
  /-- A list generates the words of at least `min` elements, with delimiters. -/
  | list {k : Kind} {cap : Option Nat} {min : Nat} {delimiter : Option Delimiter}
      {us : List (List TokenId)} {w : List TokenId} : min ≤ us.length →
      (∀ u ∈ us, Generates t d (.kind k cap) u) → Joined t delimiter us w →
      Generates t d (.shape (.list k cap min delimiter)) w

end GrammarKit
