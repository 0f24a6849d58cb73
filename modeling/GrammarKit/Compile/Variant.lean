import GrammarKit.Compile.Journal
import GrammarKit.Declaration

/-!
# Variants of declared rules

A rule with `k` optional parameters is compiled once for each of the `2 ^ k`
ways to leave some of them out. Variant `i` keeps the `j`-th optional parameter
exactly if bit `j` of `i` is set. The variants of a rule get consecutive rule
ids, in the order of the declarations.
-/
namespace GrammarKit.Compile

/-- One variant of a declared rule. -/
structure Variant where
  /-- Place of the declaration. -/
  decl : Nat
  /-- Bit `j` keeps the `j`-th optional parameter. -/
  kept : Nat
  deriving DecidableEq, Repr

/-- Number of variants of a rule, unless too many parameters are optional. -/
def variantCount? (maxOptionals : Nat) (r : RuleDecl) : Option Nat :=
  if r.optionalCount ≤ maxOptionals ∧ r.optionalCount < 32 then some (1 <<< r.optionalCount)
  else none

/-- The variants of all rules, and the index that lists their ids. -/
structure Numbering where
  ranks : RankIndex
  variants : List Variant
  deriving DecidableEq, Repr

/-- Numbers the variants of the rules from place `decl` on; `id` is the next
rule id. -/
def numberFrom (maxOptionals : Nat) (decl : Nat) (id : RuleId) (ranks : RankIndex) :
    List RuleDecl → Journaled Numbering
  | [] => pure ⟨ranks, []⟩
  | r :: rest => do
    if (ranks.id? r.ranked).isNone then
      Journaled.tell [.rankedType r.ranked ranks.size]
    let count ← Journaled.require
      (.tooManyOptionals r.action r.optionalCount maxOptionals) (variantCount? maxOptionals r)
    let ranks := ranks.add r.ranked (List.range' id count)
    let variants := (List.range count).map fun kept => ⟨decl, kept⟩
    (fun later => ⟨later.ranks, variants ++ later.variants⟩) <$>
      numberFrom maxOptionals (decl + 1) (id + count) ranks rest

/-- Numbers the variants of all rules, from rule id `first` on. -/
def numberAll (d : Declaration) (first : RuleId) (maxOptionals : Nat) : Journaled Numbering :=
  numberFrom maxOptionals 0 first .empty d.rules

end GrammarKit.Compile
