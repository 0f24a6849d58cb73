import GrammarKit.Token.Decl

/-!
# Sets of tokens

A set of tokens is the ascending list of its members. `insert` keeps the order
and adds nothing twice, so equal sets are equal lists.
-/
namespace GrammarKit

/-- Token ids, ascending. -/
abbrev TokenSet := List TokenId

namespace TokenSet

/-- The set with one more member. -/
def insert (t : TokenId) : TokenSet → TokenSet
  | [] => [t]
  | u :: rest => if t < u then t :: u :: rest else if t = u then u :: rest else u :: insert t rest

/-- The set with more members. -/
def insertAll (s : TokenSet) (ts : List TokenId) : TokenSet := ts.foldl (fun s t => insert t s) s

/-- The set of these members. -/
def ofList (ts : List TokenId) : TokenSet := insertAll [] ts

/-- Members of one ascending list that another lacks. -/
def diff : TokenSet → TokenSet → TokenSet
  | [], _ => []
  | s, [] => s
  | a :: s, b :: t =>
    if a < b then a :: diff s (b :: t) else if a = b then diff s t else diff (a :: s) t
termination_by s t => s.length + t.length

/-- Both ascending lists as one. -/
def union : TokenSet → TokenSet → TokenSet
  | [], t => t
  | s, [] => s
  | a :: s, b :: t =>
    if a < b then a :: union s (b :: t)
    else if a = b then a :: union s t
    else b :: union (a :: s) t
termination_by s t => s.length + t.length

@[simp] theorem mem_insert {t u : TokenId} {s : TokenSet} : u ∈ insert t s ↔ u = t ∨ u ∈ s := by
  induction s with
  | nil => simp [insert]
  | cons a s ih => grind [insert]

@[simp] theorem mem_insertAll {u : TokenId} {ts : List TokenId} {s : TokenSet} :
    u ∈ insertAll s ts ↔ u ∈ s ∨ u ∈ ts := by
  induction ts generalizing s with
  | nil => simp [insertAll]
  | cons t ts ih =>
    have : insertAll s (t :: ts) = insertAll (insert t s) ts := rfl
    grind [mem_insert]

@[simp] theorem mem_ofList {u : TokenId} {ts : List TokenId} : u ∈ ofList ts ↔ u ∈ ts := by
  simp [ofList]

@[simp] theorem mem_union {u : TokenId} {s t : TokenSet} : u ∈ union s t ↔ u ∈ s ∨ u ∈ t := by
  fun_induction union s t <;> grind

end TokenSet
end GrammarKit
