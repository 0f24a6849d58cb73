import GrammarKit.Proofs.Lexing.Covers
import GrammarKit.Proofs.Lexing.FirstChars
import GrammarKit.Proofs.Lexing.Margins

/-!
# The longest match

At a place the lexer goes over its roots and keeps the best match so far. It does not try
a root whose matcher cannot match more than that, by the bound on its matches. As no match
exceeds the bound, this changes nothing (`best_eq_bestUncut`), and the root that is kept
has the longest match of all that the character at the place lets through, and is declared
before others with as long a match (`LongestRoot`).

`lex_longest` says so of every occurrence in a lexed text whose token plays no role. Such
an occurrence is a lexeme, since all else is reported with a token of the layout or the one
for errors (`Serves`), and it stands where its piece is cut off, behind the pieces before
it.
-/
namespace GrammarKit

/-- No match exceeds the bound of its matcher. -/
theorem Matcher.matchLen_le_maxLen {m : Matcher} {text : Text} {offset n : Nat}
    (h : m.matchLen text offset = .ok n) : ∀ k ∈ m.maxLen?, n ≤ k := by
  cases m with
  | pattern p => simp [maxLen?]
  | literals s =>
    rintro k ⟨⟩
    unfold matchLen at h
    cases hrest : require Fault.badSlice (text.dropBytes? offset) with
    | error f =>
      rw [hrest] at h
      cases h
    | ok rest =>
      rw [hrest] at h
      cases h
      exact s.bytes_match_le_maxLen rest

namespace Lexer

variable {lx : Lexer} {t : TokenTable} {prev : Option Char} {c : Char} {before rest : Text}
  {s : Progress}

/-! ## The choice without the bounds -/

/-- As `better`, but no candidate is left out for its bound. -/
def betterUncut (prev : Option Char) (c : Char) (rest : Text) (best : Option Best)
    (cand : Candidate) : Option Best :=
  if cand.2.startsWith c then
    let n := cand.2.matchChars prev rest
    let b := Text.bytes (rest.take n)
    if b > best.elim 0 Best.bytes then some ⟨cand.1, n, b⟩ else best
  else best

/-- The best candidate at the front of a text, with every match found out. -/
def bestUncut (lx : Lexer) (prev : Option Char) (rest : Text) : Option Best :=
  match rest with
  | [] => none
  | c :: _ => lx.roots.foldl (betterUncut prev c rest) none

theorem better_eq_betterUncut (prev : Option Char) (c : Char) (rest : Text) :
    better prev c rest = betterUncut prev c rest := by
  funext best cand
  unfold better betterUncut
  dsimp only
  cases cand.2.startsWith c with
  | false => simp
  | true =>
    rw [Bool.not_true, Bool.or_false, if_pos rfl]
    split
    · next hmax => exact (if_neg (Nat.not_lt.mpr (Matcher.matchBytes_le hmax prev rest))).symm
    · rfl

/-- Leaving out candidates for their bounds does not change the choice. -/
theorem best_eq_bestUncut (lx : Lexer) (prev : Option Char) (rest : Text) :
    lx.best prev rest = lx.bestUncut prev rest := by
  cases rest with
  | nil => rfl
  | cons c rest => rw [best, bestUncut, better_eq_betterUncut]

/-! ## The root that is chosen -/

/-- A root that matches at an offset in front of the character `c`: of those that let the
character through, none matches more, and none declared before it as much. -/
structure LongestRoot (lx : Lexer) (t : TokenTable) (text : Text) (offset : Nat) (c : Char)
    (root : TokenId) (len : Nat) : Prop where
  isRoot : t.IsRoot root
  matched : ∃ m, lx.matcher? root = some m ∧ m.startsWith c = true ∧
    m.matchLen text offset = .ok len
  pos : 0 < len
  most : ∀ id m, t.IsRoot id → lx.matcher? id = some m → m.startsWith c = true →
    ∃ n, m.matchLen text offset = .ok n ∧ n ≤ len ∧ (n = len → root ≤ id)

/-- Among ascending candidates the winner is the first of those that match as much. -/
theorem Wins.first {cands : List Candidate} {w x : Candidate} (h : Wins prev rest cands w)
    (hascend : cands.Pairwise fun a b => a.1 < b.1) (hx : x ∈ cands)
    (heq : x.2.matchBytes prev rest = w.2.matchBytes prev rest) : w.1 ≤ x.1 := by
  obtain ⟨front, back, rfl, -, hfront, -⟩ := h
  exact le_of_notMem_front hascend hx fun hx => Nat.ne_of_lt (hfront x hx) heq

/-- The roots to try are the tokens without parent that have a matcher. -/
theorem MadeFrom.mem_roots_iff (hlx : lx.MadeFrom t) {cand : Candidate} :
    cand ∈ lx.roots ↔ t.IsRoot cand.1 ∧ lx.matcher? cand.1 = some cand.2 := by
  rw [hlx.roots, mem_candidatesAmong_iff, TokenTable.mem_roots_iff]

/-- What the lexer chooses at a place is the root with the longest match there. -/
theorem longestRoot_of_best (hlx : lx.MadeFrom t) {b : Best}
    (h : lx.best before.getLast? (c :: rest) = some b) :
    lx.LongestRoot t (before ++ c :: rest) (Text.bytes before) c b.token b.bytes := by
  have hmatch : ∀ m : Matcher, m.matchLen (before ++ c :: rest) (Text.bytes before) =
      .ok (m.matchBytes before.getLast? (c :: rest)) :=
    fun m => Scan.matchLen_append m before (c :: rest)
  have hascend : (lx.roots.filter fun cand => cand.2.startsWith c).Pairwise
      fun a b => a.1 < b.1 := by
    rw [hlx.roots]
    exact (pairwise_candidatesAmong lx.matchers t.pairwise_roots).filter _
  rw [best_eq_foldl_filter] at h
  rcases foldl_betterUnfiltered before.getLast? (c :: rest)
    (lx.roots.filter fun cand => cand.2.startsWith c) with ⟨w, hw, hfold⟩ | ⟨-, hnone⟩
  · obtain rfl : Best.of before.getLast? (c :: rest) w = b := Option.some.inj (hfold.symm.trans h)
    obtain ⟨hmem, hstart⟩ := List.mem_filter.mp hw.mem
    obtain ⟨hroot, hmatcher⟩ := hlx.mem_roots_iff.mp hmem
    refine ⟨hroot, ⟨w.2, hmatcher, hstart, hmatch w.2⟩, hw.pos, fun id m hid hm hc => ?_⟩
    have hcand : (id, m) ∈ lx.roots.filter fun cand => cand.2.startsWith c :=
      List.mem_filter.mpr ⟨hlx.mem_roots_iff.mpr ⟨hid, hm⟩, hc⟩
    exact ⟨_, hmatch m, hw.le hcand, hw.first hascend hcand⟩
  · cases hnone.symm.trans h

/-! ## Occurrences of lexemes -/

/-- A token for the layout or for stray characters. -/
def Serves (lx : Lexer) (token : TokenId) : Prop := lx.Lays token ∨ token = lx.error

theorem Serves.exists_role {token : TokenId} (h : lx.Serves token) (hlx : lx.MadeFrom t) :
    ∃ role, t.role? role = some token := by
  rcases h with hlays | rfl
  · obtain ⟨role, -, hrole⟩ := role_of_lays hlx hlays
    exact ⟨role, hrole⟩
  · exact ⟨.error, hlx.error⟩

theorem flush_serves (s : Progress) : ∀ o ∈ found (lx.flush s).1, lx.Serves o.token := by
  unfold flush
  split
  · simp [found]
  · exact List.forall_mem_singleton.mpr (.inr rfl)

/-- The end of the text has no lexemes. -/
theorem finish_serves (s : Progress) : ∀ o ∈ found (lx.finish s), lx.Serves o.token := by
  intro o ho
  rw [finish_eq, found_append, found_append, found_append] at ho
  simp only [List.mem_append] at ho
  rcases ho with ((ho | ho) | ho) | ho
  · exact flush_serves s o ho
  · exact .inl (endLine_lays _ _ o ho)
  · exact .inl (closingDedents_lays _ o ho)
  · rw [List.mem_singleton.mp ho]
    exact .inl (.inl rfl)

/-- A lexeme is reported where it stands; no other piece is reported as one. -/
theorem emitPiece_lays (s : Progress) (p : Piece) :
    ∀ o ∈ found (lx.emitPiece s p).1, lx.Lays o.token ∨
      ∃ token u, p = .lexeme token u ∧ o = ⟨token, s.offset, Text.bytes u⟩ := by
  intro o ho
  cases p with
  | margin blanks => exact .inl (shift_lays _ _ o ho)
  | lineBreak crlf => exact .inl (endLine_lays _ _ o ho)
  | lexeme token u =>
    rw [found_emitPiece_lexeme] at ho
    exact .inr ⟨token, u, rfl, List.mem_singleton.mp ho⟩
  | comment u =>
    have hfound : found (lx.emitPiece s (.comment u)).1 = [] := found_innerNewlines s.offset u
    rw [hfound] at ho
    cases ho
  | _ => cases ho

theorem emit_serves (s : Progress) (p : Piece) :
    ∀ o ∈ found (lx.emit s p).1, lx.Serves o.token ∨
      ∃ token u, p = .lexeme token u ∧ o = ⟨token, s.offset, Text.bytes u⟩ := by
  intro o ho
  obtain ⟨hflush, -, -⟩ := flush_spec lx s
  cases p with
  | stray c => cases ho
  | joint u crlf => exact .inl (flush_serves s o ho)
  | _ =>
    rw [emit_eq (by simp) (by simp), found_append] at ho
    rcases List.mem_append.mp ho with ho | ho
    · exact .inl (flush_serves s o ho)
    · rw [← hflush]
      exact (emitPiece_lays _ _ o ho).imp_left .inl

/-- Reporting pieces, every other token comes from a lexeme, at the offset behind the pieces
before it. -/
theorem eventsFrom_serves (s : Progress) (ps : List Piece) :
    ∀ o ∈ found (lx.eventsFrom s ps), lx.Serves o.token ∨
      ∃ earlier token u later, ps = earlier ++ .lexeme token u :: later ∧
        o = ⟨token, s.offset + Text.bytes (written earlier), Text.bytes u⟩ := by
  induction ps generalizing s with
  | nil => exact fun o ho => .inl (finish_serves s o ho)
  | cons p ps ih =>
    intro o ho
    rw [eventsFrom, found_append] at ho
    rcases List.mem_append.mp ho with ho | ho
    · refine (emit_serves s p o ho).imp_right ?_
      rintro ⟨token, u, rfl, rfl⟩
      exact ⟨[], token, u, ps, rfl, rfl⟩
    · refine (ih _ o ho).imp_right ?_
      rintro ⟨earlier, token, u, later, rfl, rfl⟩
      refine ⟨p :: earlier, token, u, later, rfl, ?_⟩
      rw [emit_offset, written_cons, Text.bytes_append, Nat.add_assoc]

/-- A piece that is no margin is the one at the front of the text inside a line. -/
theorem exists_piece_of_piecesFrom {atLineStart : Bool} {p : Piece} {ps : List Piece}
    (h : lx.piecesFrom prev atLineStart rest = p :: ps) (hp : ∀ blanks, p ≠ .margin blanks) :
    ∃ c after, rest = c :: after ∧ lx.piece prev c after = p := by
  have hinside : lx.piecesFrom prev false rest = p :: ps := by
    cases atLineStart with
    | false => exact h
    | true =>
      rw [piecesFrom_lineStart] at h
      split at h
      · exact absurd (List.cons.inj h).1.symm (hp _)
      · exact h
  cases rest with
  | nil =>
    rw [piecesFrom] at hinside
    cases hinside
  | cons c after =>
    rw [piecesFrom, if_neg Bool.false_ne_true] at hinside
    exact ⟨c, after, rfl, (List.cons.inj hinside).1⟩

/-- A lexeme is the best candidate at its place, refined. -/
theorem exists_best_of_piecesFrom {atLineStart : Bool} {token : TokenId} {u : Text}
    {ps : List Piece} (h : lx.piecesFrom prev atLineStart rest = .lexeme token u :: ps) :
    ∃ c after b, rest = c :: after ∧ lx.best prev (c :: after) = some b ∧
      u = (c :: after).take b.chars ∧ token = lx.refine b.token u := by
  obtain ⟨c, after, rfl, hpiece⟩ := exists_piece_of_piecesFrom h (by simp)
  rcases lx.piece_cases prev c after with ⟨d, hp⟩ | ⟨crlf, hp⟩ | ⟨v, hp⟩ | ⟨v, crlf, hp⟩ |
    ⟨b, hb, hp⟩ | ⟨-, hp⟩
  case inr.inr.inr.inr.inl =>
    rw [hp] at hpiece
    cases hpiece
    exact ⟨c, after, b, rfl, hb, rfl, rfl⟩
  all_goals
    rw [hp] at hpiece
    cases hpiece

/-- **The longest match wins.** An occurrence whose token plays no role has the length of
the longest match at its place, which is not zero, among the roots whose filter lets the
first character through; its token is that to which the characters refine the root that has
this match, the first declared one if there are several. Leaving out candidates for the
bounds of their matches does not change any choice, as no match exceeds its bound. -/
theorem lex_longest {options : LexerOptions} (hlx : ofTable t options = .ok lx) (text : Text) :
    (∀ o ∈ (lx.lex text).occurrences, (∀ role, t.role? role ≠ some o.token) →
      ∃ before c rest root lexeme, text = before ++ c :: rest ∧ o.start = Text.bytes before ∧
        lx.LongestRoot t text o.start c root o.len ∧
        text.slice? o.start o.stop = some lexeme ∧ o.token = lx.refine root lexeme) ∧
    (∀ prev rest, lx.best prev rest = lx.bestUncut prev rest) ∧
    ∀ (m : Matcher) buffer offset n, m.matchLen buffer offset = .ok n →
      ∀ k ∈ m.maxLen?, n ≤ k := by
  have hmade := madeFrom_ofTable hlx
  refine ⟨fun o ho hrole => ?_, lx.best_eq_bestUncut, fun _ _ _ _ => Matcher.matchLen_le_maxLen⟩
  rcases eventsFrom_serves .start (lx.pieces text) o ho with hserves |
    ⟨earlier, token, u, later, hpieces, rfl⟩
  · obtain ⟨role, hplays⟩ := hserves.exists_role hmade
    exact absurd hplays (hrole role)
  · have hpieces : lx.piecesFrom ([] : Text).getLast? true text = _ := hpieces
    obtain ⟨_, rfl, hlater⟩ := piecesFrom_eq_append hpieces
    obtain ⟨c, after, b, rfl, hb, rfl, htoken⟩ := exists_best_of_piecesFrom hlater.symm
    have hbytes := best_bytes hb
    have hstart : Progress.start.offset + Text.bytes (written earlier) =
        Text.bytes (written earlier) := Nat.zero_add _
    rw [Occurrence.stop, hstart, ← hbytes]
    refine ⟨written earlier, c, after, b.token, (c :: after).take b.chars, rfl, rfl, ?_, ?_, htoken⟩
    · exact longestRoot_of_best hmade hb
    · have hslice := Text.slice?_append (written earlier) ((c :: after).take b.chars)
        ((c :: after).drop b.chars)
      rw [List.take_append_drop] at hslice
      rw [hbytes]
      exact hslice

/-- A sign of assignment, which is also one of the relations, and one relation told apart. -/
def operators : TokenTable :=
  ⟨[.playing (.named "End") .endOfStream, .playing (.named "Error") .error,
    .withLiterals (.named "Assign") ["="], .withLiterals (.named "Relation") ["=", "=="],
    (TokenDecl.named "Equal").withLiterals ["=="] |>.childOf 3 .hidden],
    ⟨some 0, some 1, none, none, none⟩⟩

/-- Of three signs the first two are a relation, as this is the longest match, and are
refined to the one that is told apart. The third one is an assignment, as this is declared
first. -/
theorem lex_longest_of_operators :
    ∃ lx, ofTable operators .default = .ok lx ∧
      (lx.lex ['=', '=', '=']).occurrences = [⟨4, 0, 2⟩, ⟨2, 2, 1⟩, ⟨0, 3, 0⟩] ∧
      (∃ c root, lx.LongestRoot operators ['=', '=', '='] 0 c root 2 ∧
        lx.refine root ['=', '='] = 4) ∧
      ∃ c root, lx.LongestRoot operators ['=', '=', '='] 2 c root 1 ∧
        lx.refine root ['='] = 2 := by
  have heval : (ofTable operators .default).map
      (fun lx => (lx.lex ['=', '=', '=']).occurrences) =
      .ok [⟨4, 0, 2⟩, ⟨2, 2, 1⟩, ⟨0, 3, 0⟩] := by cbv
  cases hlx : ofTable operators .default with
  | error e =>
    rw [hlx] at heval
    cases heval
  | ok lx =>
    rw [hlx] at heval
    have hfound : (lx.lex ['=', '=', '=']).occurrences = [⟨4, 0, 2⟩, ⟨2, 2, 1⟩, ⟨0, 3, 0⟩] :=
      Except.ok.inj heval
    obtain ⟨hlexemes, -⟩ := lex_longest hlx ['=', '=', '=']
    obtain ⟨-, c, -, root, lexeme, -, -, hlongest, hslice, htoken⟩ :=
      hlexemes ⟨4, 0, 2⟩ (by simp [hfound]) (fun role => by cases role <;> decide)
    obtain ⟨-, c', -, root', lexeme', -, -, hlongest', hslice', htoken'⟩ :=
      hlexemes ⟨2, 2, 1⟩ (by simp [hfound]) (fun role => by cases role <;> decide)
    cases hslice
    cases hslice'
    exact ⟨lx, rfl, hfound, ⟨c, root, hlongest, htoken.symm⟩, c', root', hlongest', htoken'.symm⟩

end Lexer
end GrammarKit
