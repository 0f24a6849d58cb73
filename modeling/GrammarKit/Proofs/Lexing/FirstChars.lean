import GrammarKit.Proofs.Lexing.Refinement
import GrammarKit.Proofs.Text.Casing

/-!
# What the filter on first characters hides

A candidate is tried only if the first character passes its filter
(`Matcher.startsWith`). For a set of literals the filter lists the first characters of
the literals with their upper and lower case. Without case this is less than what
matches: a character that only shares its lower case with the first one of a literal is
`Text.Casing.Unlisted`, and its match is hidden (`LiteralSet.Hides`).

`Lexer.best_eq_unfiltered_iff`: the choice among the candidates is the one without the
filter exactly if the filter lets the winner through. Both choices are that of the first
candidate with the longest match (`Lexer.Wins`), among some or among all candidates.
`Lexer.hidden_iff_unlisted` says what is hidden from a lexer whose patterns list no
first characters.
-/
namespace GrammarKit

theorem Text.bytes_le (text : Text) : Text.bytes text ≤ 4 * text.length := by
  induction text with
  | nil => exact Nat.le_refl _
  | cons c text ih =>
    have := c.utf8Size_le_four
    rw [Text.bytes_cons, List.length_cons]
    omega

/-- A running maximum is at least its start and every number. -/
theorem le_foldl_max {l : List Nat} {n start : Nat} (h : n ≤ start ∨ n ∈ l) :
    n ≤ l.foldl Nat.max start := by
  induction l generalizing start with
  | nil => simpa using h
  | cons m l ih =>
    refine ih ?_
    rcases h with h | h
    · exact .inl (Nat.le_trans h (Nat.le_max_left start m))
    · rcases List.mem_cons.mp h with rfl | h
      · exact .inl (Nat.le_max_right start n)
      · exact .inr h

namespace LiteralSet

open Text.Casing

variable {s : LiteralSet}

/-! ## Sets of literals -/

/-- A text that begins with a literal has as many characters, and with case it is the
literal itself. -/
theorem length_of_beginsWith {cs : Bool} {text literal : Text}
    (h : beginsWith cs text literal = true) :
    (text.take literal.length).length = literal.length ∧
      (cs = true → text.take literal.length = literal) := by
  fun_induction beginsWith cs text literal with
  | case1 => simp
  | case2 => cases h
  | case3 c text d literal ih =>
    obtain ⟨hcd, hrest⟩ := Bool.and_eq_true_iff.mp h
    obtain ⟨hlen, heq⟩ := ih hrest
    refine ⟨by simpa using hlen, fun hcs => ?_⟩
    subst hcs
    have hcd : c = d := by simpa [sameChar] using hcd
    rw [List.length_cons, List.take_succ_cons, heq rfl, hcd]

/-- A match is that of a literal of the set. -/
theorem exists_of_matchChars_pos {text : Text} (h : 0 < s.matchChars text) :
    ∃ l ∈ s.literals, l ≠ [] ∧ beginsWith s.caseSensitive text l = true ∧
      s.matchChars text = l.length := by
  unfold matchChars at h ⊢
  cases hfind : s.literals.find? (beginsWith s.caseSensitive text) with
  | none => simp [hfind] at h
  | some l =>
    rw [hfind] at h
    exact ⟨l, List.mem_of_find?_eq_some hfind, List.ne_nil_of_length_pos h, List.find?_some hfind,
      rfl⟩

/-- No match is longer than the set says. -/
theorem bytes_match_le_maxLen (s : LiteralSet) (text : Text) :
    Text.bytes (text.take (s.matchChars text)) ≤ s.maxLen := by
  rcases Nat.eq_zero_or_pos (s.matchChars text) with hzero | hpos
  · rw [hzero]
    exact Nat.zero_le _
  · obtain ⟨l, hl, -, hbegins, hchars⟩ := exists_of_matchChars_pos hpos
    obtain ⟨hlen, heq⟩ := length_of_beginsWith hbegins
    refine Nat.le_trans ?_ (le_foldl_max (.inr (List.mem_map_of_mem hl)))
    rw [hchars]
    split
    · next hcs => rw [heq hcs]
    · have hbytes := Text.bytes_le (text.take l.length)
      rwa [hlen] at hbytes

/-- A set keeps its literals and how it compares them. -/
theorem of_ofList {literals : List Text} {cs : Bool} (h : ofList literals cs = .ok s) :
    s.caseSensitive = cs ∧ ∀ l, l ∈ s.literals ↔ l ∈ literals := by
  unfold ofList at h
  split at h
  · cases h
  · cases h
    exact ⟨rfl, fun l => List.mem_mergeSort⟩

/-- The set matches a text that begins with a character that its filter stops. -/
def Hides (s : LiteralSet) (c : Char) (rest : Text) : Prop :=
  0 < s.matchChars (c :: rest) ∧ s.startsWith c = false

theorem startsWith_iff {c : Char} :
    s.startsWith c = true ↔
      ∃ d l, d :: l ∈ s.literals ∧ (c = d ∨ c ∈ lower d ∨ c ∈ upper d) := by
  unfold startsWith firstChars
  rw [List.contains_iff_mem, List.mem_flatMap]
  constructor
  · rintro ⟨_ | ⟨d, l⟩, hl, hc⟩
    · cases hc
    · exact ⟨d, l, hl, by simpa using hc⟩
  · rintro ⟨d, l, hl, hc⟩
    exact ⟨d :: l, hl, by simpa using hc⟩

/-- A hidden match is one without case, and its first character is not listed for that
of the literal. -/
theorem unlisted_of_hides {c : Char} {rest : Text} (h : s.Hides c rest) :
    s.caseSensitive = false ∧ ∃ d l, d :: l ∈ s.literals ∧
      beginsWith false (c :: rest) (d :: l) = true ∧ Unlisted c d := by
  obtain ⟨hmatch, hfilter⟩ := h
  obtain ⟨l, hl, hne, hbegins, -⟩ := exists_of_matchChars_pos hmatch
  obtain ⟨d, l, rfl⟩ := List.exists_cons_of_ne_nil hne
  have hstop : ¬ (c = d ∨ c ∈ lower d ∨ c ∈ upper d) := fun hc => by
    rw [startsWith_iff.mpr ⟨d, l, hl, hc⟩] at hfilter
    cases hfilter
  obtain ⟨hcd, hlower, hupper⟩ := not_or.mp hstop |>.imp id not_or.mp
  obtain ⟨hsame, -⟩ := Bool.and_eq_true_iff.mp hbegins
  have hsame : s.caseSensitive = false ∧ lower c = lower d := by
    simpa [sameChar, hcd] using hsame
  rw [hsame.1] at hbegins
  exact ⟨hsame.1, d, l, hl, hbegins, hsame.2, hcd, hlower, hupper⟩

/-- Every character that is not listed for another one is hidden from the set of this
one. -/
theorem hides_of_unlisted {c d : Char} (h : Unlisted c d) (rest : Text) :
    (LiteralSet.mk [[d]] false).Hides c rest := by
  obtain ⟨hlower, hcd, hnotLower, hnotUpper⟩ := h
  constructor
  · have hbegins : beginsWith false (c :: rest) [d] = true := by simp [beginsWith, sameChar, hlower]
    simp [matchChars, hbegins]
  · rw [Bool.eq_false_iff]
    intro hstart
    obtain ⟨d', l, hl, hc⟩ := startsWith_iff.mp hstart
    obtain ⟨rfl, -⟩ := List.cons.inj (List.mem_singleton.mp hl)
    rcases hc with hc | hc | hc
    · exact hcd hc
    · exact hnotLower hc
    · exact hnotUpper hc

end LiteralSet

/-- No pattern of the table lists the characters that it may begin with. -/
def TokenTable.OpenPatterns (t : TokenTable) : Prop :=
  ∀ d ∈ t.tokens, ∀ source start, d.recognizer = some (.pattern source start) → start = none

namespace Matcher

/-- A candidate that cannot match more than some bytes does not. -/
theorem matchBytes_le {m : Matcher} {n : Nat} (h : m.maxLen?.any (· ≤ n) = true)
    (prev : Option Char) (text : Text) : m.matchBytes prev text ≤ n := by
  cases m with
  | literals s =>
    have hn : s.maxLen ≤ n := by simpa [maxLen?] using h
    exact Nat.le_trans (s.bytes_match_le_maxLen text) hn
  | pattern p => simp [maxLen?] at h

/-- A compiled pattern lists the characters that its declaration does. -/
theorem start_of_compile {d : TokenDecl} {p : Pattern} (h : compile d = .ok (some (.pattern p)))
    (hopen : ∀ source start, d.recognizer = some (.pattern source start) → start = none) :
    p.start = none := by
  unfold compile at h
  split at h
  · cases h
  · next options _ =>
    cases hset : LiteralSet.ofList (options.map (·.toList)) d.tellsCase <;>
      simp [hset, Failure.ofFault, Except.map] at h
  · next source start hspelled =>
    have hrec : d.recognizer = some (.pattern source start) := by
      unfold TokenDecl.spelledRecognizer at hspelled
      split at hspelled
      · cases hspelled
      · exact hspelled
    cases hopen source start hrec
    split at h
    · next hp =>
      cases h
      obtain ⟨-, -, rfl⟩ := Option.map_eq_some_iff.mp hp
      rfl
    · cases h
  · cases h

end Matcher

namespace Lexer

/-! ## The choice without the filter -/

/-- As `better`, but any first character may begin a match. -/
def betterUnfiltered (prev : Option Char) (rest : Text) (best : Option Best) (cand : Candidate) :
    Option Best :=
  let bytes := best.elim 0 Best.bytes
  if cand.2.maxLen?.any (· ≤ bytes) then best
  else
    let n := cand.2.matchChars prev rest
    let b := Text.bytes (rest.take n)
    if b > bytes then some ⟨cand.1, n, b⟩ else best

/-- The best candidate at the front of a text, among all of them. -/
def bestUnfiltered (lx : Lexer) (prev : Option Char) (rest : Text) : Option Best :=
  lx.roots.foldl (betterUnfiltered prev rest) none

variable {lx : Lexer} {prev : Option Char} {c : Char} {rest : Text} {cands : List Candidate}

/-- What a candidate matches. -/
def Best.of (prev : Option Char) (rest : Text) (cand : Candidate) : Best :=
  ⟨cand.1, cand.2.matchChars prev rest, cand.2.matchBytes prev rest⟩

/-- The candidate matches something, more than any before it and at least as much as any
behind it. -/
def Wins (prev : Option Char) (rest : Text) (cands : List Candidate) (w : Candidate) : Prop :=
  ∃ before after, cands = before ++ w :: after ∧ 0 < w.2.matchBytes prev rest ∧
    (∀ x ∈ before, x.2.matchBytes prev rest < w.2.matchBytes prev rest) ∧
    ∀ x ∈ after, x.2.matchBytes prev rest ≤ w.2.matchBytes prev rest

namespace Wins

variable {w w' : Candidate}

theorem mem (h : Wins prev rest cands w) : w ∈ cands := by
  obtain ⟨before, after, rfl, -⟩ := h
  simp

theorem pos (h : Wins prev rest cands w) : 0 < w.2.matchBytes prev rest := by
  obtain ⟨-, -, -, hpos, -⟩ := h
  exact hpos

theorem le (h : Wins prev rest cands w) {x : Candidate} (hx : x ∈ cands) :
    x.2.matchBytes prev rest ≤ w.2.matchBytes prev rest := by
  obtain ⟨before, after, rfl, -, hbefore, hafter⟩ := h
  rcases List.mem_append.mp hx with hx | hx
  · exact Nat.le_of_lt (hbefore x hx)
  · rcases List.mem_cons.mp hx with rfl | hx
    · exact Nat.le_refl _
    · exact hafter x hx

/-- Only one candidate wins. -/
theorem unique (h : Wins prev rest cands w) (h' : Wins prev rest cands w') : w = w' := by
  have heq := Nat.le_antisymm (h'.le h.mem) (h.le h'.mem)
  obtain ⟨before, after, rfl, -, hbefore, -⟩ := h
  obtain ⟨before', after', hcands, -, hbefore', -⟩ := h'
  -- The one that comes first would be beaten by the other one, which matches as much.
  rcases List.append_eq_append_iff.mp hcands with ⟨mid, rfl, hmid⟩ | ⟨mid, rfl, hmid⟩
  · cases mid with
    | nil => exact (List.cons.inj hmid).1
    | cons x mid =>
      obtain ⟨rfl, -⟩ := List.cons.inj hmid
      exact absurd (hbefore' w (by simp)) (by omega)
  · cases mid with
    | nil => exact (List.cons.inj hmid).1.symm
    | cons x mid =>
      obtain ⟨rfl, -⟩ := List.cons.inj hmid
      exact absurd (hbefore w' (by simp)) (by omega)

/-- A winner still wins when others are left out. -/
theorem filter (h : Wins prev rest cands w) {p : Candidate → Bool} (hw : p w = true) :
    Wins prev rest (cands.filter p) w := by
  obtain ⟨before, after, rfl, hpos, hbefore, hafter⟩ := h
  refine ⟨before.filter p, after.filter p, ?_, hpos, fun x hx => ?_, fun x hx => ?_⟩
  · rw [List.filter_append, List.filter_cons_of_pos hw]
  · exact hbefore x (List.mem_of_mem_filter hx)
  · exact hafter x (List.mem_of_mem_filter hx)

/-- A candidate that matches more than all before it takes over. -/
theorem takeOver {x : Candidate} (hpos : 0 < x.2.matchBytes prev rest)
    (h : ∀ y ∈ cands, y.2.matchBytes prev rest < x.2.matchBytes prev rest) :
    Wins prev rest (cands ++ [x]) x :=
  ⟨cands, [], rfl, hpos, h, by simp⟩

/-- One that matches no more than the winner does not. -/
theorem stay (h : Wins prev rest cands w) {x : Candidate}
    (hx : x.2.matchBytes prev rest ≤ w.2.matchBytes prev rest) :
    Wins prev rest (cands ++ [x]) w := by
  obtain ⟨before, after, rfl, hpos, hbefore, hafter⟩ := h
  refine ⟨before, after ++ [x], by simp, hpos, hbefore, fun y hy => ?_⟩
  rcases List.mem_append.mp hy with hy | hy
  · exact hafter y hy
  · rwa [List.mem_singleton.mp hy]

end Wins

/-- One candidate more: it is taken if it matches more. -/
theorem betterUnfiltered_eq (best : Option Best) (cand : Candidate) :
    betterUnfiltered prev rest best cand =
      if best.elim 0 Best.bytes < cand.2.matchBytes prev rest then some (.of prev rest cand)
      else best := by
  unfold betterUnfiltered
  dsimp only
  split
  · next hmax => rw [if_neg (Nat.not_lt.mpr (Matcher.matchBytes_le hmax prev rest))]
  · rfl

/-- The choice is the winner; there is none if nothing matches. -/
theorem foldl_betterUnfiltered (prev : Option Char) (rest : Text) (cands : List Candidate) :
    (∃ w, Wins prev rest cands w ∧
      cands.foldl (betterUnfiltered prev rest) none = some (.of prev rest w)) ∨
    ((∀ x ∈ cands, x.2.matchBytes prev rest = 0) ∧
      cands.foldl (betterUnfiltered prev rest) none = none) := by
  induction cands using List.reverseRecOn with
  | nil => exact .inr ⟨by simp, rfl⟩
  | append_singleton cands x ih =>
    rw [List.foldl_concat, betterUnfiltered_eq]
    rcases ih with ⟨w, hw, hfold⟩ | ⟨hzero, hfold⟩
    · rw [hfold]
      have hbytes : (some (Best.of prev rest w)).elim 0 Best.bytes = w.2.matchBytes prev rest := rfl
      rw [hbytes]
      refine .inl ?_
      split
      · next hlt =>
        exact ⟨x, .takeOver (Nat.zero_lt_of_lt hlt) fun y hy => Nat.lt_of_le_of_lt (hw.le hy) hlt,
          rfl⟩
      · next hle => exact ⟨w, hw.stay (Nat.not_lt.mp hle), rfl⟩
    · rw [hfold]
      split
      · next hpos =>
        refine .inl ⟨x, .takeOver hpos fun y hy => ?_, rfl⟩
        rwa [hzero y hy]
      · next hle =>
        refine .inr ⟨List.forall_mem_append.mpr ⟨hzero, ?_⟩, rfl⟩
        exact List.forall_mem_singleton.mpr (Nat.eq_zero_of_not_pos hle)

theorem foldl_of_wins {w : Candidate} (h : Wins prev rest cands w) :
    cands.foldl (betterUnfiltered prev rest) none = some (.of prev rest w) := by
  rcases foldl_betterUnfiltered prev rest cands with ⟨w', hw', hfold⟩ | ⟨hzero, -⟩
  · rw [hfold, h.unique hw']
  · exact absurd (hzero w h.mem) (Nat.ne_of_gt h.pos)

theorem foldl_of_zero (h : ∀ x ∈ cands, x.2.matchBytes prev rest = 0) :
    cands.foldl (betterUnfiltered prev rest) none = none := by
  rcases foldl_betterUnfiltered prev rest cands with ⟨w, hw, -⟩ | ⟨-, hfold⟩
  · exact absurd (h w hw.mem) (Nat.ne_of_gt hw.pos)
  · exact hfold

/-! ## The choice with the filter -/

/-- The filter leaves out candidates, and the others are compared as before. -/
theorem best_eq_foldl_filter (lx : Lexer) (prev : Option Char) (c : Char) (rest : Text) :
    lx.best prev (c :: rest) =
      (lx.roots.filter fun cand => cand.2.startsWith c).foldl
        (betterUnfiltered prev (c :: rest)) none := by
  have hstep : better prev c (c :: rest) = fun best cand =>
      if cand.2.startsWith c = true then betterUnfiltered prev (c :: rest) best cand else best := by
    funext best cand
    unfold better betterUnfiltered
    cases cand.2.startsWith c <;> simp
  rw [List.foldl_filter, best, hstep]

/-- A token is a candidate at most once, with its matcher. -/
theorem candidate_eq {ids : List TokenId} {w w' : Candidate}
    (hw : w ∈ candidatesAmong lx.matchers ids) (hw' : w' ∈ candidatesAmong lx.matchers ids)
    (h : w.1 = w'.1) : w = w' := by
  have hm := (mem_candidatesAmong_iff.mp hw).2
  rw [h, (mem_candidatesAmong_iff.mp hw').2] at hm
  exact Prod.ext h (Option.some.inj hm).symm

variable {t : TokenTable}

/-- The filter changes nothing exactly if it lets the best of all candidates through. -/
theorem best_eq_unfiltered_iff (hlx : lx.MadeFrom t) (prev : Option Char) (c : Char)
    (rest : Text) :
    lx.best prev (c :: rest) = lx.bestUnfiltered prev (c :: rest) ↔
      ∀ b m, lx.bestUnfiltered prev (c :: rest) = some b → lx.matcher? b.token = some m →
        m.startsWith c = true := by
  rw [best_eq_foldl_filter, bestUnfiltered]
  rcases foldl_betterUnfiltered prev (c :: rest) lx.roots with ⟨w, hw, hfold⟩ | ⟨hzero, hfold⟩
  · have hmem := hw.mem
    rw [hlx.roots] at hmem
    have hmatcher := (mem_candidatesAmong_iff.mp hmem).2
    rw [hfold]
    constructor
    · intro hbest b m hb hm
      cases hb
      cases hmatcher.symm.trans hm
      rcases foldl_betterUnfiltered prev (c :: rest)
        (lx.roots.filter fun cand => cand.2.startsWith c) with ⟨w', hw', hfold'⟩ | ⟨-, hnone⟩
      · rw [hfold'] at hbest
        obtain ⟨hmem', hstart⟩ := List.mem_filter.mp hw'.mem
        rw [hlx.roots] at hmem'
        have hid : w'.1 = w.1 := congrArg Best.token (Option.some.inj hbest)
        rwa [candidate_eq hmem' hmem hid] at hstart
      · rw [hnone] at hbest
        cases hbest
    · intro hall
      exact foldl_of_wins (hw.filter (hall _ _ rfl hmatcher))
  · rw [hfold]
    exact iff_of_true (foldl_of_zero fun x hx => hzero x (List.mem_of_mem_filter hx)) nofun

/-- The best of all candidates matches something. -/
theorem matchBytes_pos_of_bestUnfiltered (hlx : lx.MadeFrom t) {b : Best} {m : Matcher}
    (hb : lx.bestUnfiltered prev rest = some b) (hm : lx.matcher? b.token = some m) :
    0 < m.matchBytes prev rest := by
  unfold bestUnfiltered at hb
  rcases foldl_betterUnfiltered prev rest lx.roots with ⟨w, hw, hfold⟩ | ⟨-, hnone⟩
  · have hmem := hw.mem
    rw [hlx.roots] at hmem
    cases hfold.symm.trans hb
    cases (mem_candidatesAmong_iff.mp hmem).2.symm.trans hm
    exact hw.pos
  · cases hnone.symm.trans hb

/-! ## What is hidden -/

/-- A matcher is made of a declaration. -/
theorem exists_decl_of_matcher (hlx : lx.MadeFrom t) {id : TokenId} {m : Matcher}
    (h : lx.matcher? id = some m) : ∃ d ∈ t.tokens, Matcher.compile d = .ok (some m) :=
  exists_of_mem_mapM hlx.matchers _ (List.mem_of_getElem? (Option.join_eq_some_iff.mp h))

/-- A pattern that lists no first characters lets every character through. -/
theorem startsWith_of_openPatterns (hlx : lx.MadeFrom t) (hopen : t.OpenPatterns)
    {id : TokenId} {p : Pattern} (h : lx.matcher? id = some (.pattern p)) (c : Char) :
    p.startsWith c = true := by
  obtain ⟨d, hd, hcompile⟩ := exists_decl_of_matcher hlx h
  have hstart := Matcher.start_of_compile hcompile (hopen d hd)
  rw [Pattern.startsWith, hstart]
  rfl

open Text.Casing in
/-- **The filter hides only characters that are not listed.** With case a set of
literals hides no match. Without case it hides the match of a literal only from a
character that has the same lower case as the first one of the literal and is not
listed for it, and from each such character the match is hidden in some set. For
literals that begin in ASCII the Kelvin sign is the only one. The choice among the
candidates, if no pattern lists first characters, is the choice without the filter
exactly if the best of all candidates is not hidden. -/
theorem hidden_iff_unlisted (prev : Option Char) (c : Char) (rest : Text) :
    (∀ literals cs s, LiteralSet.ofList literals cs = .ok s → s.Hides c rest →
      cs = false ∧ ∃ d l, d :: l ∈ literals ∧
        LiteralSet.beginsWith false (c :: rest) (d :: l) = true ∧ Unlisted c d) ∧
    (∀ d, Unlisted c d → ∃ s, LiteralSet.ofList [[d]] false = .ok s ∧ s.Hides c rest) ∧
    (∀ d, Unlisted c d → d.toNat < 128 → c = kelvin ∧ (d = 'k' ∨ d = 'K')) ∧
    ∀ t options lx, TokenTable.OpenPatterns t → ofTable t options = .ok lx →
      (lx.best prev (c :: rest) = lx.bestUnfiltered prev (c :: rest) ↔
        ∀ b s, lx.bestUnfiltered prev (c :: rest) = some b →
          lx.matcher? b.token = some (.literals s) → ¬ s.Hides c rest) := by
  refine ⟨fun literals cs s hs hhides => ?_, fun d h => ?_, fun d h hd => unlisted_ascii hd h,
    fun t options lx hopen hlx => ?_⟩
  · obtain ⟨hcs, d, l, hl, hbegins, hunlisted⟩ := LiteralSet.unlisted_of_hides hhides
    obtain ⟨rfl, hmem⟩ := LiteralSet.of_ofList hs
    exact ⟨hcs, d, l, (hmem _).mp hl, hbegins, hunlisted⟩
  · exact ⟨⟨[[d]], false⟩, by simp [LiteralSet.ofList], LiteralSet.hides_of_unlisted h rest⟩
  · have hmade := madeFrom_ofTable hlx
    rw [best_eq_unfiltered_iff hmade]
    constructor
    · intro hall b s hb hm hhides
      have hstart : s.startsWith c = true := hall b _ hb hm
      rw [hhides.2] at hstart
      cases hstart
    · intro hall b m hb hm
      cases m with
      | literals s =>
        have hpos := matchBytes_pos_of_bestUnfiltered hmade hb hm
        have hchars : 0 < s.matchChars (c :: rest) := by
          refine Nat.pos_of_ne_zero fun hzero => ?_
          simp [Matcher.matchBytes, Matcher.matchChars, hzero] at hpos
        by_contra hstart
        exact hall b s hb hm ⟨hchars, Bool.eq_false_iff.mpr hstart⟩
      | pattern p => exact startsWith_of_openPatterns hmade hopen hm c

/-- A unit that is found in either case. -/
def units : TokenTable :=
  ⟨[.playing (.named "End") .endOfStream, .playing (.named "Error") .error,
    (TokenDecl.named "Unit").withLiterals ["k"] |>.ignoringCase],
    ⟨some 0, some 1, none, none, none⟩⟩

/-- The sign for Kelvin is a match of the unit `k`, and the best of all candidates, but
the filter stops it, so that no candidate is chosen. -/
theorem best_of_kelvin :
    ∃ lx s, ofTable units .default = .ok lx ∧ units.OpenPatterns ∧
      LiteralSet.ofList [['k']] false = .ok s ∧ lx.matcher? 2 = some (.literals s) ∧
      s.matchChars [Text.Casing.kelvin] = 1 ∧ s.startsWith Text.Casing.kelvin = false ∧
      lx.bestUnfiltered none [Text.Casing.kelvin] = some ⟨2, 1, 3⟩ ∧
      lx.best none [Text.Casing.kelvin] = none := by
  have heval : (ofTable units .default).map (fun lx => (lx.matcher? 2,
      lx.bestUnfiltered none [Text.Casing.kelvin], lx.best none [Text.Casing.kelvin])) =
      .ok (some (.literals ⟨[['k']], false⟩), some ⟨2, 1, 3⟩, none) := by cbv
  cases hlx : ofTable units .default with
  | error e =>
    rw [hlx] at heval
    cases heval
  | ok lx =>
    rw [hlx] at heval
    obtain ⟨hmatcher, hbests⟩ := Prod.mk.inj (Except.ok.inj heval)
    obtain ⟨hall, hbest⟩ := Prod.mk.inj hbests
    have hopen : units.OpenPatterns := by
      intro d hd source start hrec
      fin_cases hd <;> cases hrec
    exact ⟨lx, ⟨[['k']], false⟩, rfl, hopen, by simp [LiteralSet.ofList], hmatcher,
      by decide +kernel, by decide +kernel, hall, hbest⟩

end Lexer
end GrammarKit
