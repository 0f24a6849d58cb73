import GrammarKit.Proofs.Lexing.Lexed
import GrammarKit.Proofs.Lexing.Recognition
import GrammarKit.Proofs.Token.Lineage

/-!
# Scanning by offsets

`Scan.run` lexes a text as a machine does. It holds a byte offset, cuts the text
there for each thing that it looks at, and finds matchers and children by their
numbers. All of this can go wrong: an offset may lie inside a character or behind
the end, a number may name nothing, a run of stray characters may start behind
its end, newlines may come out of order, a loop may go on for ever. A scan that
meets one of these aborts.

`run_eq_lex`: with the lexer of any table no scan of any text aborts, and what it
finds is the lexed text. The invariant of the loop is that the offset is the
width of the characters passed, so it is a boundary, and every round but the last
one passes a character. Refining a lexeme ends as every token it comes to has the
token before as its parent (`TokenTable.Lineage`).
-/
namespace GrammarKit

/-- Why a scan gives up. -/
inductive Abort where
  | fault (fault : Fault)
  /-- The rounds that there is room for are used up. -/
  | endless
  deriving DecidableEq, Repr

namespace Scan

/-! ## The scan -/

/-- The value of a call, or an abort. -/
def checked {α : Type} : Except Fault α → Except Abort α
  | .ok a => .ok a
  | .error f => .error (.fault f)

@[simp] theorem checked_ok {α : Type} (a : α) : checked (.ok a) = .ok a := rfl

variable (t : TokenTable) (lx : Lexer) (text : Text)

/-- The text from an offset on. -/
def behind (offset : Nat) : Except Abort Text := checked (require .badSlice (text.dropBytes? offset))

/-- The text between two offsets. -/
def between (start stop : Nat) : Except Abort Text :=
  checked (require .badSlice (text.slice? start stop))

/-- The matcher of a token, if it has one. -/
def matcherAt (id : TokenId) : Except Abort (Option Matcher) :=
  checked (require .outOfRange lx.matchers[id]?)

/-- The tokens that refine a token. -/
def childrenAt (id : TokenId) : Except Abort (List TokenId) :=
  if id < t.size then .ok ((t.children id).map (·.1)) else .error (.fault .outOfRange)

/-- Bytes of the comment at an offset; zero if there is none. -/
def commentLen (offset : Nat) : Except Abort Nat :=
  match lx.comments with
  | none => .ok 0
  | some p => checked (p.matchLen text offset)

/-- The first of some tokens that matches all of a lexeme. -/
def takerAmong (lexeme : Text) : List TokenId → Except Abort (Option TokenId)
  | [] => .ok none
  | id :: ids => do
    match ← matcherAt lx id with
    | none => takerAmong lexeme ids
    | some m =>
      let n ← checked (m.matchLen lexeme 0)
      if n = Text.bytes lexeme then .ok (some id) else takerAmong lexeme ids

/-- The deepest descendant of a token that takes over a lexeme. -/
def refineAt (lexeme : Text) : (fuel : Nat) → TokenId → Except Abort TokenId
  | 0, _ => .error .endless
  | fuel + 1, id => do
    match ← takerAmong lx lexeme (← childrenAt t id) with
    | none => .ok id
    | some child => refineAt lexeme fuel child

/-- The token among some with the longest match at an offset, where the character
`c` stands, and the bytes it matches. -/
def longestAt (c : Char) (offset : Nat) :
    Option (TokenId × Nat) → List TokenId → Except Abort (Option (TokenId × Nat))
  | best, [] => .ok best
  | best, id :: ids => do
    match ← matcherAt lx id with
    | none => longestAt c offset best ids
    | some m =>
      let len := best.elim 0 (·.2)
      if m.maxLen?.any (· ≤ len) || !m.startsWith c then longestAt c offset best ids
      else
        let n ← checked (m.matchLen text offset)
        longestAt c offset (if n > len then some (id, n) else best) ids

/-- The lexeme or stray character at an offset. -/
def lexemeAt (c : Char) (offset : Nat) : Except Abort Piece := do
  match ← longestAt lx text c offset none t.roots with
  | none => .ok (.stray c)
  | some (id, len) =>
    let lexeme ← between text offset (offset + len)
    let token ← refineAt t lx lexeme t.size id
    .ok (.lexeme token lexeme)

/-- The joint at an offset, where a backslash stands. -/
def jointAt (offset : Nat) : Except Abort (Option Piece) := do
  let len ← commentLen lx text (offset + 1)
  match lineBreak? (← behind text (offset + 1 + len)) with
  | none => .ok none
  | some crlf =>
    let skipped ← between text (offset + 1) (offset + 1 + len)
    .ok (some (.joint skipped crlf))

/-- The piece at an offset, where the text `c :: rest` stands. -/
def pieceAt (c : Char) (rest : Text) (offset : Nat) : Except Abort Piece :=
  if indents c then .ok (.blank c)
  else if c = '\n' then .ok (.lineBreak false)
  else if c = '\r' then .ok (if rest.head? = some '\n' then .lineBreak true else .blank c)
  else do
    let len ← commentLen lx text offset
    if len ≠ 0 then .ok (.comment (← between text offset (offset + len)))
    else
      match ← if c = '\\' && lx.options.escapeNewlines then jointAt lx text offset else .ok none with
      | some p => .ok p
      | none => lexemeAt t lx text c offset

/-- The margin at the start of a line, if there is one. -/
def marginAt (offset : Nat) : Except Abort (Option Text) :=
  if lx.indentation.isNone then .ok none
  else do
    let blanks := (← behind text offset).takeWhile indents
    let len ← commentLen lx text (offset + Text.bytes blanks)
    let shown ← behind text (offset + Text.bytes blanks + len)
    .ok (if shown.isEmpty || (lineBreak? shown).isSome then none else some blanks)

/-- The progress, if its run of stray characters starts before its offset. -/
def settled (s : Progress) : Except Abort Progress :=
  if s.strayStart.any (s.offset < ·) then .error (.fault .outOfRange) else .ok s

/-- Reports the margin of a line. -/
def lineStart (s : Progress) : Except Abort (List LexEvent × Progress) := do
  match ← marginAt lx text s.offset with
  | none => .ok ([], s)
  | some blanks => .ok (lx.emit (← settled s) (.margin blanks))

/-- Reports the next piece, and what `next` finds after it. -/
def inLine (next : Progress → Bool → Except Abort (List LexEvent)) (s : Progress) :
    Except Abort (List LexEvent) := do
  match ← behind text s.offset with
  | [] => .ok (lx.finish (← settled s))
  | c :: rest =>
    let p ← pieceAt t lx text c rest s.offset
    let (events, s) := lx.emit (← settled s) p
    .ok (events ++ (← next s p.endsLine))

/-- Scans on from some progress. -/
def rounds : (fuel : Nat) → Progress → (atLineStart : Bool) → Except Abort (List LexEvent)
  | 0, _, _ => .error .endless
  | fuel + 1, s, atLineStart => do
    let (margin, s) ← if atLineStart then lineStart lx text s else .ok ([], s)
    .ok (margin ++ (← inLine t lx text (rounds fuel) s))

/-- Scans a text. -/
def run : Except Abort Lexed := do
  let events ← rounds t lx text (Text.bytes text + 1) .start true
  checked (Lexed.ofParts ⟨text, events.filterMap LexEvent.occurrence?,
    events.filterMap LexEvent.newline?, events.any LexEvent.isError⟩)

/-! ## Looking at the text -/

variable {t lx}

theorem behind_append (before rest : Text) :
    behind (before ++ rest) (Text.bytes before) = .ok rest := by
  unfold behind
  rw [Text.dropBytes?_append]
  rfl

/-- A slice that begins behind `before` holds the next characters. -/
theorem between_take (before rest : Text) (n : Nat) :
    between (before ++ rest) (Text.bytes before) (Text.bytes before + Text.bytes (rest.take n)) =
      .ok (rest.take n) := by
  have hslice := Text.slice?_append before (rest.take n) (rest.drop n)
  rw [List.take_append_drop] at hslice
  unfold between
  rw [hslice]
  rfl

theorem patternLen_append (p : Pattern) (before rest : Text) :
    p.matchLen (before ++ rest) (Text.bytes before) =
      .ok (Text.bytes (rest.take (p.matchChars before.getLast? rest))) := by
  unfold Pattern.matchLen
  rw [if_neg (by rw [Text.bytes_append]; omega), Text.dropBytes?_append, Text.charBefore?_append]

/-- At a boundary a matcher matches what it matches at the front of the rest. -/
theorem matchLen_append (m : Matcher) (before rest : Text) :
    m.matchLen (before ++ rest) (Text.bytes before) =
      .ok (Text.bytes (rest.take (m.matchChars before.getLast? rest))) := by
  cases m with
  | literals s =>
    unfold Matcher.matchLen
    rw [Text.dropBytes?_append]
    rfl
  | pattern p => exact patternLen_append p before rest

theorem commentLen_append (lx : Lexer) (before rest : Text) :
    commentLen lx (before ++ rest) (Text.bytes before) =
      .ok (Text.bytes (rest.take (lx.commentChars before.getLast? rest))) := by
  unfold commentLen Lexer.commentChars
  cases lx.comments with
  | none => simp
  | some p =>
    dsimp only
    rw [patternLen_append]
    rfl

/-- Behind a comment stands the rest of the text. -/
theorem behind_comment (before rest : Text) (n : Nat) :
    behind (before ++ rest) (Text.bytes before + Text.bytes (rest.take n)) = .ok (rest.drop n) := by
  have hbehind := behind_append (before ++ rest.take n) (rest.drop n)
  rwa [List.append_assoc, List.take_append_drop, Text.bytes_append] at hbehind

/-! ## Looking for tokens -/

section Tokens

variable (hlx : lx.MadeFrom t)
include hlx

theorem length_matchers : lx.matchers.length = t.size :=
  (mapM_eq_ok_iff.mp hlx.matchers).length_eq.symm

theorem matcherAt_eq {id : TokenId} (hid : id < t.size) :
    matcherAt lx id = .ok (lx.matcher? id) := by
  have hlt : id < lx.matchers.length := by
    rw [length_matchers hlx]
    exact hid
  unfold matcherAt Lexer.matcher?
  rw [List.getElem?_eq_getElem hlt]
  rfl

omit hlx in
theorem candidatesAmong_cons (id : TokenId) (ids : List TokenId) :
    Lexer.candidatesAmong lx.matchers (id :: ids) =
      ((lx.matcher? id).map fun m => (id, m)).toList ++ Lexer.candidatesAmong lx.matchers ids := by
  unfold Lexer.candidatesAmong Lexer.matcher?
  rw [List.filterMap_cons]
  cases (lx.matchers[id]?).join <;> rfl

theorem takerAmong_eq (lexeme : Text) {ids : List TokenId} (hids : ∀ id ∈ ids, id < t.size) :
    takerAmong lx lexeme ids =
      .ok (((Lexer.candidatesAmong lx.matchers ids).find? (Lexer.matchesAll lexeme)).map (·.1)) := by
  induction ids with
  | nil => rfl
  | cons id ids ih =>
    obtain ⟨hid, hids⟩ := List.forall_mem_cons.mp hids
    rw [takerAmong, matcherAt_eq hlx hid, candidatesAmong_cons]
    cases hm : lx.matcher? id with
    | none => exact ih hids
    | some m =>
      have hlen : m.matchLen lexeme 0 = .ok (m.matchBytes none lexeme) := matchLen_append m [] lexeme
      by_cases hall : m.matchBytes none lexeme = Text.bytes lexeme
      · simp [hlen, Lexer.matchesAll, hall]
      · simp [hlen, Lexer.matchesAll, hall, ih hids]

/-- Refining ends before the fuel does: with every step down the lineage grows,
and it has room for every token once. -/
theorem refineAt_eq (lexeme : Text) (fuel : Nat) {id : TokenId} {path : List TokenId}
    (hpath : t.Lineage id path) (hfuel : t.size < path.length + fuel) :
    refineAt t lx lexeme fuel id = .ok (lx.refineWithin fuel id lexeme) := by
  induction fuel generalizing id path with
  | zero =>
    have := hpath.length_le_size
    omega
  | succ fuel ih =>
    have hid : id < t.size := hpath.lt_size id hpath.mem
    have hparent : ∀ child ∈ (t.children id).map (·.1), t.HasParent child id :=
      fun child => TokenTable.mem_children_iff.mp
    rw [refineAt, childrenAt, if_pos hid, ok_bind, Lexer.refineWithin, hlx.children_getD hid,
      takerAmong_eq hlx lexeme fun child hchild => (hparent child hchild).lt_size, ok_bind]
    cases hfind : (Lexer.candidatesAmong lx.matchers ((t.children id).map (·.1))).find?
        (Lexer.matchesAll lexeme) with
    | none => rfl
    | some cand =>
      have hcand := Lexer.mem_of_mem_candidatesAmong (List.mem_of_find?_eq_some hfind)
      exact ih (.child (hparent _ hcand) hpath) (by rw [List.length_cons]; omega)

/-- The longest match at a place, as bytes. -/
theorem longestAt_eq (before : Text) (c : Char) (rest : Text) {ids : List TokenId}
    (hids : ∀ id ∈ ids, id < t.size) (best : Option Lexer.Best) :
    longestAt lx (before ++ c :: rest) c (Text.bytes before)
        (best.map fun b => (b.token, b.bytes)) ids =
      .ok (((Lexer.candidatesAmong lx.matchers ids).foldl
        (Lexer.better before.getLast? c (c :: rest)) best).map fun b => (b.token, b.bytes)) := by
  induction ids generalizing best with
  | nil => rfl
  | cons id ids ih =>
    obtain ⟨hid, hids⟩ := List.forall_mem_cons.mp hids
    rw [longestAt, matcherAt_eq hlx hid, candidatesAmong_cons]
    cases hm : lx.matcher? id with
    | none => exact ih hids best
    | some m =>
      have hlen : (best.map fun b => (b.token, b.bytes)).elim 0 (·.2) =
          best.elim 0 Lexer.Best.bytes := by
        cases best <;> rfl
      rw [ok_bind, Option.map_some, Option.toList_some, List.singleton_append, List.foldl_cons,
        Lexer.better]
      dsimp only
      rw [hlen]
      split
      · exact ih hids best
      · rw [matchLen_append, checked_ok, ok_bind]
        split
        · exact ih hids (some ⟨id, _, _⟩)
        · exact ih hids best

/-- A lexeme is the longest match, refined as far as possible. -/
theorem lexemeAt_eq (before : Text) (c : Char) (rest : Text) :
    lexemeAt t lx (before ++ c :: rest) c (Text.bytes before) =
      .ok (match lx.best before.getLast? (c :: rest) with
        | some b =>
          .lexeme (lx.refine b.token ((c :: rest).take b.chars)) ((c :: rest).take b.chars)
        | none => .stray c) := by
  have hroots : ∀ id ∈ t.roots, id < t.size := fun id hid => (TokenTable.mem_roots_iff.mp hid).lt_size
  have hlongest := longestAt_eq hlx before c rest hroots none
  rw [← hlx.roots] at hlongest
  change _ = Except.ok ((lx.best before.getLast? (c :: rest)).map _) at hlongest
  unfold lexemeAt
  rw [Option.map_none] at hlongest
  rw [hlongest]
  cases hbest : lx.best before.getLast? (c :: rest) with
  | none => rfl
  | some b =>
    have hroot : t.IsRoot b.token := by
      refine Lexer.best_token (fun cand hcand => ?_) hbest
      rw [hlx.roots] at hcand
      exact TokenTable.mem_roots_iff.mp (Lexer.mem_of_mem_candidatesAmong hcand)
    have hrefine := refineAt_eq hlx ((c :: rest).take b.chars) t.size (.root hroot)
      (by rw [List.length_singleton]; omega)
    rw [Option.map_some, ok_bind]
    dsimp only
    rw [Lexer.best_bytes hbest, between_take, ok_bind, hrefine, ok_bind, ← length_matchers hlx]
    rfl

omit hlx in
theorem jointAt_eq (lx : Lexer) (before rest : Text) :
    jointAt lx (before ++ '\\' :: rest) (Text.bytes before) = .ok (lx.joint? rest) := by
  have htext : before ++ '\\' :: rest = (before ++ ['\\']) ++ rest := by simp
  have hoffset : Text.bytes before + 1 = Text.bytes (before ++ ['\\']) := by
    rw [Text.bytes_append]
    rfl
  have hlast : (before ++ ['\\']).getLast? = some '\\' := List.getLast?_concat
  unfold jointAt Lexer.joint?
  rw [htext, hoffset, commentLen_append, hlast, ok_bind, behind_comment, ok_bind]
  dsimp only
  cases lineBreak? (rest.drop (lx.commentChars (some '\\') rest)) with
  | none => rfl
  | some crlf =>
    dsimp only
    rw [between_take]
    rfl

/-- The piece at an offset is the piece at the front of the text behind it. -/
theorem pieceAt_eq (before : Text) (c : Char) (rest : Text) :
    pieceAt t lx (before ++ c :: rest) c rest (Text.bytes before) =
      .ok (lx.piece before.getLast? c rest) := by
  unfold pieceAt Lexer.piece
  split
  · rfl
  split
  · rfl
  split
  · split <;> rfl
  rw [commentLen_append, ok_bind]
  dsimp only
  by_cases hcomment : lx.commentChars before.getLast? (c :: rest) = 0
  · have hlen : Text.bytes ((c :: rest).take (lx.commentChars before.getLast? (c :: rest))) = 0 := by
      rw [hcomment]
      rfl
    rw [if_neg (not_not_intro hlen), if_neg (not_not_intro hcomment)]
    by_cases hjoint : (c = '\\' && lx.options.escapeNewlines) = true
    · have hc : c = '\\' := of_decide_eq_true (Bool.and_eq_true_iff.mp hjoint).1
      rw [if_pos hjoint, if_pos hjoint, hc, jointAt_eq, ok_bind]
      cases lx.joint? rest with
      | some p => rfl
      | none => exact lexemeAt_eq hlx before '\\' rest
    · rw [if_neg hjoint, if_neg hjoint]
      exact lexemeAt_eq hlx before c rest
  · have hlen : Text.bytes ((c :: rest).take (lx.commentChars before.getLast? (c :: rest))) ≠ 0 := by
      rw [ne_eq, Text.bytes_eq_zero_iff, List.take_eq_nil_iff]
      simp [hcomment]
    rw [if_pos hlen, if_pos hcomment, between_take]
    rfl

end Tokens

theorem marginAt_eq (lx : Lexer) (before rest : Text) :
    marginAt lx (before ++ rest) (Text.bytes before) = .ok (lx.margin? before.getLast? rest) := by
  have hsplit := takeWhile_append_drop indents rest
  generalize hblanks : rest.takeWhile indents = blanks at hsplit
  generalize hafter : rest.drop blanks.length = after at hsplit
  have htext : before ++ rest = (before ++ blanks) ++ after := by rw [← hsplit, List.append_assoc]
  unfold marginAt Lexer.margin?
  split
  · rfl
  rw [behind_append, ok_bind]
  dsimp only
  rw [hblanks, hafter, htext, ← Text.bytes_append, commentLen_append, getLast?_append_eq_lastChar,
    ok_bind, behind_comment]
  rfl

/-! ## Going on -/

/-- The run of stray characters, if there is one, starts before the offset. -/
def Settled (s : Progress) : Prop := ∀ start ∈ s.strayStart, start ≤ s.offset

theorem settled_eq {s : Progress} (h : Settled s) : settled s = .ok s := by
  unfold settled
  refine if_neg ?_
  rw [Option.any_eq_true]
  rintro ⟨start, hstart, hlt⟩
  have hle := h start hstart
  have hlt := of_decide_eq_true hlt
  omega

theorem settled_of_none {s : Progress} (h : s.strayStart = none) : Settled s := by
  intro start hstart
  rw [h] at hstart
  cases hstart

/-- A piece ends a run of stray characters or prolongs it, and moves on by its
text. -/
theorem emit_settled (lx : Lexer) {s : Progress} (hs : Settled s) (p : Piece) :
    (lx.emit s p).2.offset = s.offset + Text.bytes p.text ∧ Settled (lx.emit s p).2 := by
  refine ⟨lx.emit_offset s p, ?_⟩
  obtain ⟨-, hnone, -⟩ := lx.flush_spec s
  cases p with
  | stray c =>
    intro start hstart
    change some (s.strayStart.getD s.offset) = some start at hstart
    show start ≤ s.offset + c.utf8Size
    cases hrun : s.strayStart with
    | none =>
      rw [hrun] at hstart
      cases hstart
      exact Nat.le_add_right _ _
    | some first =>
      rw [hrun] at hstart
      cases hstart
      exact Nat.le_add_right_of_le (hs first hrun)
  | margin blanks =>
    obtain ⟨-, -, hstray⟩ := Lexer.shift_spec lx ((lx.flush s).2.advance (Text.bytes blanks))
      (blankWidth lx.options.tabWidth blanks)
    exact settled_of_none (hstray.trans hnone)
  | lineBreak crlf =>
    obtain ⟨-, -, hstray⟩ := Lexer.endLine_spec lx (lx.flush s).2 (Text.bytes (breakText crlf))
    exact settled_of_none (hstray.trans hnone)
  | _ => exact settled_of_none hnone

section Rounds

variable (hlx : lx.MadeFrom t)
include hlx

/-- From a boundary, if what comes next is right from every later boundary, so is
what comes now. -/
theorem inLine_eq {next : Progress → Bool → Except Abort (List LexEvent)} (before rest : Text)
    {s : Progress} (hoffset : s.offset = Text.bytes before) (hs : Settled s)
    (hnext : ∀ (u after : Text) (s' : Progress) (atLineStart : Bool), rest = u ++ after → u ≠ [] →
      s'.offset = Text.bytes (before ++ u) → Settled s' → next s' atLineStart =
        .ok (lx.eventsFrom s' (lx.piecesFrom (before ++ u).getLast? atLineStart after))) :
    inLine t lx (before ++ rest) next s =
      .ok (lx.eventsFrom s (lx.piecesFrom before.getLast? false rest)) := by
  unfold inLine
  rw [hoffset, behind_append, ok_bind]
  cases rest with
  | nil =>
    dsimp only
    rw [settled_eq hs, Lexer.piecesFrom]
    rfl
  | cons c rest =>
    obtain ⟨after, htext, hne, -⟩ := Lexer.piece_spec lx before c rest
    obtain ⟨hemit, hsettled⟩ := emit_settled lx hs (lx.piece before.getLast? c rest)
    rw [hoffset, ← Text.bytes_append] at hemit
    have hrest := hnext _ after _ (lx.piece before.getLast? c rest).endsLine htext hne hemit hsettled
    have hdrop : rest.drop ((lx.piece before.getLast? c rest).text.length - 1) = after :=
      Lexer.drop_of_cons_eq_append htext hne
    dsimp only
    rw [pieceAt_eq hlx, ok_bind, settled_eq hs, ok_bind, Lexer.piecesFrom, if_neg Bool.false_ne_true]
    dsimp only
    rw [hrest, hdrop, ← getLast?_append_eq_lastChar]
    rfl

/-- From a boundary there are at most as many rounds as bytes and one. -/
theorem rounds_eq (fuel : Nat) (before rest : Text) (atLineStart : Bool) {s : Progress}
    (hoffset : s.offset = Text.bytes before) (hs : Settled s) (hfuel : Text.bytes rest < fuel) :
    rounds t lx (before ++ rest) fuel s atLineStart =
      .ok (lx.eventsFrom s (lx.piecesFrom before.getLast? atLineStart rest)) := by
  induction fuel generalizing before rest atLineStart s with
  | zero => omega
  | succ fuel ih =>
    -- Within a line every further round is at a later boundary.
    have hline : ∀ (before' rest' : Text) (s' : Progress), before' ++ rest' = before ++ rest →
        Text.bytes rest' ≤ Text.bytes rest → s'.offset = Text.bytes before' → Settled s' →
        inLine t lx (before ++ rest) (rounds t lx (before ++ rest) fuel) s' =
          .ok (lx.eventsFrom s' (lx.piecesFrom before'.getLast? false rest')) := by
      intro before' rest' s' htext hle hoffset' hs'
      rw [← htext]
      refine inLine_eq hlx before' rest' hoffset' hs' ?_
      rintro u after s'' atLineStart' rfl hne hoffset'' hs''
      have hpos := Text.bytes_pos hne
      rw [Text.bytes_append] at hle
      rw [← List.append_assoc]
      exact ih (before' ++ u) after atLineStart' hoffset'' hs'' (by omega)
    unfold rounds
    cases atLineStart with
    | false =>
      rw [if_neg Bool.false_ne_true, ok_bind]
      dsimp only
      rw [hline before rest s rfl (Nat.le_refl _) hoffset hs]
      rfl
    | true =>
      rw [if_pos rfl]
      unfold lineStart
      rw [hoffset, marginAt_eq, Lexer.piecesFrom_lineStart]
      cases hmargin : lx.margin? before.getLast? rest with
      | none =>
        rw [ok_bind, ok_bind]
        dsimp only
        rw [hline before rest s rfl (Nat.le_refl _) hoffset hs]
        rfl
      | some blanks =>
        have hsplit := Lexer.margin?_append hmargin
        obtain ⟨hemit, hsettled⟩ := emit_settled lx hs (.margin blanks)
        rw [hoffset, ← Text.bytes_append] at hemit
        have hrest := hline (before ++ blanks) (rest.drop blanks.length) (lx.emit s (.margin blanks)).2
          (by rw [List.append_assoc, hsplit])
          (by conv_rhs => rw [← hsplit, Text.bytes_append]
              omega)
          hemit hsettled
        rw [ok_bind]
        dsimp only
        rw [settled_eq hs, ok_bind, ok_bind]
        rw [hrest, getLast?_append_eq_lastChar]
        rfl

end Rounds

/-- Words, one of which is a keyword. -/
def keywords : TokenTable :=
  ⟨[.playing (.named "End") .endOfStream, .playing (.named "Error") .error,
    .withLiterals (.named "Word") ["go", "if"],
    (TokenDecl.named "If").withLiterals ["if"] |>.childOf 2 .hidden],
    ⟨some 0, some 1, none, none, none⟩⟩

end Scan
end GrammarKit
