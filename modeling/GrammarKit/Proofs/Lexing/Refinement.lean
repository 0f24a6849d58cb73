import GrammarKit.Proofs.Lexing.Scan

/-!
# What a lexeme is refined to

A lexeme of a root goes to the first declared child that takes all of it, from
there to the first declared child of this child, and so on as far as it is taken
(`refineWithin_lineage`). The tokens on the way are the lineage of the last one.
Every lexeme of a text comes from a root in this way (`exists_root_of_lexeme`).

The compiler goes down the same hierarchy, but by substitutable children only. As
every token has one lineage, both agree: the token of the lexeme can stand for
the root exactly if every link on the way is substitutable
(`refine_mem_withDescendants_iff`).
-/
namespace GrammarKit.Lexer

variable {lx : Lexer} {t : TokenTable} {lexeme : Text}

/-- The token has a matcher that matches all of the lexeme. -/
def Takes (lx : Lexer) (lexeme : Text) (token : TokenId) : Prop :=
  ∃ m, lx.matcher? token = some m ∧ m.matchLen lexeme 0 = .ok (Text.bytes lexeme)

/-- Of the children of `p` that take all of the lexeme, `c` is declared first. -/
structure FirstTaker (lx : Lexer) (t : TokenTable) (lexeme : Text) (p c : TokenId) : Prop where
  child : t.HasParent c p
  takes : lx.Takes lexeme c
  first : ∀ d, t.HasParent d p → lx.Takes lexeme d → c ≤ d

/-! ## One step down -/

theorem mem_candidatesAmong_iff {ids : List TokenId} {cand : Candidate} :
    cand ∈ candidatesAmong lx.matchers ids ↔ cand.1 ∈ ids ∧ lx.matcher? cand.1 = some cand.2 := by
  obtain ⟨id, m⟩ := cand
  unfold candidatesAmong matcher?
  simp [List.mem_filterMap, Option.map_eq_some_iff]

/-- Candidates are in the order of the tokens that they are taken from. -/
theorem pairwise_candidatesAmong (matchers : List (Option Matcher)) {ids : List TokenId}
    (h : ids.Pairwise (· < ·)) : (candidatesAmong matchers ids).Pairwise fun a b => a.1 < b.1 := by
  refine h.filterMap _ fun a b hlt x hx y hy => ?_
  obtain ⟨-, -, rfl⟩ := Option.map_eq_some_iff.mp hx
  obtain ⟨-, -, rfl⟩ := Option.map_eq_some_iff.mp hy
  exact hlt

/-- A candidate that is not in front of another one is declared no earlier. -/
theorem le_of_notMem_front {front back : List Candidate} {cand other : Candidate}
    (hascend : (front ++ cand :: back).Pairwise fun a b => a.1 < b.1)
    (hother : other ∈ front ++ cand :: back) (hfront : other ∉ front) : cand.1 ≤ other.1 := by
  rcases List.mem_append.mp hother with hother | hother
  · exact absurd hother hfront
  · rcases List.mem_cons.mp hother with rfl | hother
    · exact Nat.le_refl _
    · have hback := (List.pairwise_append.mp hascend).2.1
      exact Nat.le_of_lt ((List.pairwise_cons.mp hback).1 other hother)

theorem matchesAll_iff {m : Matcher} {id : TokenId} :
    matchesAll lexeme (id, m) = true ↔ m.matchLen lexeme 0 = .ok (Text.bytes lexeme) := by
  have hlen : m.matchLen lexeme 0 = .ok (m.matchBytes none lexeme) :=
    Scan.matchLen_append m [] lexeme
  rw [hlen, matchesAll, decide_eq_true_eq, Except.ok.injEq]

/-- A token takes a lexeme if it is a candidate that matches it. -/
theorem takes_iff {ids : List TokenId} {id : TokenId} (hid : id ∈ ids) :
    lx.Takes lexeme id ↔
      ∃ cand ∈ candidatesAmong lx.matchers ids, cand.1 = id ∧ matchesAll lexeme cand = true := by
  constructor
  · rintro ⟨m, hm, hall⟩
    exact ⟨(id, m), mem_candidatesAmong_iff.mpr ⟨hid, hm⟩, rfl, matchesAll_iff.mpr hall⟩
  · rintro ⟨⟨_, m⟩, hmem, rfl, hall⟩
    exact ⟨m, (mem_candidatesAmong_iff.mp hmem).2, matchesAll_iff.mp hall⟩

section Step

variable (hlx : lx.MadeFrom t) {id : TokenId} (hid : id < t.size)
include hlx hid

/-- The candidate that is found is the first child that takes the lexeme. -/
theorem firstTaker_of_find? {cand : Candidate}
    (h : (lx.children.getD id []).find? (matchesAll lexeme) = some cand) :
    lx.FirstTaker t lexeme id cand.1 := by
  rw [hlx.children_getD hid] at h
  have hmem := List.mem_of_find?_eq_some h
  have hids := (mem_candidatesAmong_iff.mp hmem).1
  refine ⟨TokenTable.mem_children_iff.mp hids,
    (takes_iff hids).mpr ⟨cand, hmem, rfl, List.find?_some h⟩, fun d hd htakes => ?_⟩
  have hd := TokenTable.mem_children_iff.mpr hd
  obtain ⟨other, hother, rfl, hall⟩ := (takes_iff hd).mp htakes
  -- Candidates ascend, and none before the one that is found takes the lexeme.
  have hascend := pairwise_candidatesAmong lx.matchers (t.pairwise_children id)
  obtain ⟨-, before, after, hsplit, hbefore⟩ := List.find?_eq_some_iff_append.mp h
  rw [hsplit] at hother hascend
  refine le_of_notMem_front hascend hother fun hfront => ?_
  have := hbefore other hfront
  simp [hall] at this

/-- If no candidate is found, no child takes the lexeme. -/
theorem not_takes_of_find? (h : (lx.children.getD id []).find? (matchesAll lexeme) = none) :
    ∀ c, t.HasParent c id → ¬ lx.Takes lexeme c := by
  rw [hlx.children_getD hid, List.find?_eq_none] at h
  intro c hc htakes
  obtain ⟨cand, hmem, -, hall⟩ := (takes_iff (TokenTable.mem_children_iff.mpr hc)).mp htakes
  exact h cand hmem hall

end Step

/-! ## All the way down -/

/-- The token of every lexeme in a text is what a root is refined to. -/
theorem exists_root_of_lexeme (hlx : lx.MadeFrom t) {prev : Option Char} {atLineStart : Bool}
    {rest u : Text} {token : TokenId} (h : .lexeme token u ∈ lx.piecesFrom prev atLineStart rest) :
    ∃ root, t.IsRoot root ∧ token = lx.refine root u := by
  fun_induction piecesFrom lx prev atLineStart rest with
  | case1 prev rest blanks hmargin ih => exact ih (by simpa using h)
  | case2 prev rest hmargin ih => exact ih h
  | case3 => cases h
  | case4 prev _ _ c rest p ih =>
    rcases List.mem_cons.mp h with h | h
    · have hp : lx.piece prev c rest = .lexeme token u := h.symm
      rcases lx.piece_cases prev c rest with ⟨d, heq⟩ | ⟨crlf, heq⟩ | ⟨v, heq⟩ | ⟨v, crlf, heq⟩ |
        ⟨b, hb, heq⟩ | ⟨-, heq⟩
      case inr.inr.inr.inr.inl =>
        rw [heq] at hp
        cases hp
        refine ⟨b.token, best_token (P := t.IsRoot) (fun cand hcand => ?_) hb, rfl⟩
        rw [hlx.roots] at hcand
        exact TokenTable.mem_roots_iff.mp (mem_of_mem_candidatesAmong hcand)
      all_goals
        rw [heq] at hp
        cases hp
    · exact ih h

/-- Refining goes down from child to child as far as one takes the lexeme. The
fuel suffices, as the lineage grows with each step and has room for every token
once. -/
theorem refineWithin_lineage (hlx : lx.MadeFrom t) (lexeme : Text) (fuel : Nat) {id : TokenId}
    {path : List TokenId} (hpath : t.Lineage id path)
    (hchain : path.IsChain fun c p => lx.FirstTaker t lexeme p c)
    (hfuel : t.size < path.length + fuel) :
    ∃ above, t.Lineage (lx.refineWithin fuel id lexeme) (above ++ path) ∧
      (above ++ path).IsChain (fun c p => lx.FirstTaker t lexeme p c) ∧
      ∀ c, t.HasParent c (lx.refineWithin fuel id lexeme) → ¬ lx.Takes lexeme c := by
  induction fuel generalizing id path with
  | zero =>
    have := hpath.length_le_size
    omega
  | succ fuel ih =>
    have hid : id < t.size := hpath.lt_size id hpath.mem
    unfold refineWithin
    cases hfind : (lx.children.getD id []).find? (matchesAll lexeme) with
    | none => exact ⟨[], hpath, hchain, not_takes_of_find? hlx hid hfind⟩
    | some cand =>
      have hfirst := firstTaker_of_find? hlx hid hfind
      have hnext : (cand.1 :: path).IsChain fun c p => lx.FirstTaker t lexeme p c := by
        refine List.isChain_cons.mpr ⟨fun p hp => ?_, hchain⟩
        rw [hpath.head?_eq] at hp
        cases hp
        exact hfirst
      obtain ⟨above, hline, hchain', hlast⟩ :=
        ih (.child hfirst.child hpath) hnext (by rw [List.length_cons]; omega)
      refine ⟨above ++ [cand.1], ?_, ?_, hlast⟩
      · rwa [List.append_assoc, List.singleton_append]
      · rwa [List.append_assoc, List.singleton_append]

/-- **Refinement and substitution agree.** A lexeme of a root is refined along the
lineage of some token: from each token to the first declared child that takes all
of the lexeme, and the last token has no child that does. This token can stand for
the root exactly if all links on the way are substitutable; otherwise a terminal
that lists only the root does not accept it. -/
theorem refine_mem_withDescendants_iff {options : LexerOptions}
    (hlx : ofTable t options = .ok lx) {root : TokenId} (hroot : t.IsRoot root) (lexeme : Text) :
    ∃ path, t.Lineage (lx.refine root lexeme) path ∧ path.getLast? = some root ∧
      path.IsChain (fun c p => lx.FirstTaker t lexeme p c) ∧
      (∀ c, t.HasParent c (lx.refine root lexeme) → ¬ lx.Takes lexeme c) ∧
      (lx.refine root lexeme ∈ withDescendants [root] t.substitutes ↔
        path.IsChain fun c p => t.Substitutes p c) := by
  have hmade := madeFrom_ofTable hlx
  have hfuel : t.size < [root].length + lx.matchers.length := by
    rw [Scan.length_matchers hmade, List.length_singleton]
    omega
  obtain ⟨above, hline, hchain, hlast⟩ :=
    refineWithin_lineage hmade lexeme lx.matchers.length (.root hroot) (.singleton _) hfuel
  have hend : (above ++ [root]).getLast? = some root := List.getLast?_concat
  refine ⟨above ++ [root], hline, hend, hchain, hlast, ?_⟩
  rw [TokenTable.mem_withDescendants_substitutes_iff, ← hline.canStandFor_iff hend]
  simp [refine]

/-- Words that can stand for names, and among them a keyword that cannot. -/
def names : TokenTable :=
  ⟨[.playing (.named "End") .endOfStream, .playing (.named "Error") .error,
    .withLiterals (.named "Name") ["a", "do", "go"],
    (TokenDecl.named "Word").withLiterals ["do", "go"] |>.childOf 2 .substitutable,
    (TokenDecl.named "Do").withLiterals ["do"] |>.childOf 3 .hidden],
    ⟨some 0, some 1, none, none, none⟩⟩

/-- The word `go` can stand for a name, the keyword `do` cannot, though both are
refined from it. -/
theorem refine_of_names :
    ∃ lx, ofTable names .default = .ok lx ∧ names.IsRoot 2 ∧ lx.refine 2 "go".toList = 3 ∧
      3 ∈ withDescendants [2] names.substitutes ∧ lx.refine 2 "do".toList = 4 ∧
      4 ∉ withDescendants [2] names.substitutes := by
  have heval : (ofTable names .default).map
      (fun lx => (lx.refine 2 "go".toList, lx.refine 2 "do".toList)) = .ok (3, 4) := by cbv
  cases hlx : ofTable names .default with
  | error e =>
    rw [hlx] at heval
    cases heval
  | ok lx =>
    rw [hlx] at heval
    obtain ⟨hgo, hdo⟩ := Prod.mk.inj (Except.ok.inj heval)
    have hroot : names.IsRoot 2 := ⟨_, rfl, rfl⟩
    have hword : names.Lineage 3 [3, 2] := .child ⟨_, _, rfl, rfl, rfl⟩ (.root hroot)
    have hkeyword : names.Lineage 4 [4, 3, 2] := .child ⟨_, _, rfl, rfl, rfl⟩ hword
    obtain ⟨path, hpath, -, -, -, hstand⟩ := refine_mem_withDescendants_iff hlx hroot "go".toList
    obtain ⟨path', hpath', -, -, -, hstand'⟩ := refine_mem_withDescendants_iff hlx hroot "do".toList
    rw [hgo] at hpath hstand
    rw [hdo] at hpath' hstand'
    rw [hpath.unique hword] at hstand
    rw [hpath'.unique hkeyword] at hstand'
    refine ⟨lx, rfl, hroot, hgo, hstand.mpr ?_, hdo, fun hmem => ?_⟩
    · exact List.isChain_cons_cons.mpr ⟨⟨_, rfl, rfl⟩, .singleton _⟩
    · obtain ⟨⟨d, hd, hlink⟩, -⟩ := List.isChain_cons_cons.mp (hstand'.mp hmem)
      cases hd
      cases hlink

end GrammarKit.Lexer
