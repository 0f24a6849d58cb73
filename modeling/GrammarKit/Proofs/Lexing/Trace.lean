import GrammarKit.Proofs.Lexing.Blocks
import GrammarKit.Proofs.Lexing.Newlines
import GrammarKit.Proofs.Lexing.Recognition
import GrammarKit.Proofs.Lexing.Tiling

/-!
# What a tracer is told

The occurrences, the newlines and the trace of a pass are views of its events. A scanner
that is traced has no events: it appends tokens, enters newlines and calls its tracer in
statements of their own. `Recording` is such a scanner, with a tracer that writes down how
it is called. It finds the lexed text, and its calls are the events without the newlines
inside tokens and comments (`record_eq`).

`trace_exact`: the calls but those for newlines are the occurrences one by one, with their
offsets and lengths. If the lexer has a table that declarations make, the token of an
occurrence decides which call it is. The calls for newlines are those of line breaks and
joints, so not all newlines of the index are told: a newline inside a token or a comment is
not.
-/
namespace GrammarKit

/-- A call of a tracer. -/
inductive TraceCall where
  | token (token : TokenId) (start len : Nat)
  | indent (offset width : Nat)
  | dedent (offset : Nat)
  | error (start len : Nat)
  | newline (offset : Nat) (escaped : Bool)
  deriving DecidableEq, Repr

/-- The newline that a call tells, and whether it is escaped. -/
def TraceCall.newline? : TraceCall → Option (Nat × Bool)
  | newline offset escaped => some (offset, escaped)
  | _ => none

/-! ## A scanner with a recording tracer -/

/-- How far a scanner has come, what it found, and how its tracer was called. -/
structure Recording where
  offset : Nat
  errorStart : Option Nat
  blocks : Indentation
  occurrences : List Occurrence
  newlines : List Nat
  invalid : Bool
  calls : List TraceCall
  deriving DecidableEq, Repr

namespace Recording

def start : Recording := ⟨0, none, .start, [], [], false, []⟩

variable (lx : Lexer) (r : Recording)

def advance (bytes : Nat) : Recording := { r with offset := r.offset + bytes }

/-- Appends a token. -/
def push (o : Occurrence) : Recording := { r with occurrences := r.occurrences ++ [o] }

/-- Enters newlines into the index. -/
def enter (offsets : List Nat) : Recording := { r with newlines := r.newlines ++ offsets }

/-- Calls the tracer. -/
def tell (call : TraceCall) : Recording := { r with calls := r.calls ++ [call] }

/-- Ends a run of stray characters. -/
def flushError : Recording :=
  match r.errorStart with
  | none => r
  | some start =>
    let len := r.offset - start
    let r := { r with errorStart := none }.push ⟨lx.error, start, len⟩
    { r with invalid := true }.tell (.error start len)

/-- The end-of-line token to emit, if any: not first, and not after another one. -/
def wantsEndOfLine : Option TokenId :=
  match lx.endOfLine, r.occurrences.getLast? with
  | some eol, some last => if last.token = eol then none else some eol
  | _, _ => none

/-- Ends a line with `len` bytes. -/
def endLine (len : Nat) : Recording :=
  match r.wantsEndOfLine lx with
  | some eol => (r.push ⟨eol, r.offset, len⟩).tell (.token eol r.offset len)
  | none => r

/-- Passes a line break of `len` bytes. -/
def newline (len : Nat) : Recording :=
  let offset := r.offset + len - 1
  (((r.enter [offset]).tell (.newline offset false)).endLine lx len).advance len

/-- Closes blocks. -/
def closeBlocks (dedent : TokenId) : Nat → Recording → Recording
  | 0, r => r
  | n + 1, r => closeBlocks dedent n ((r.push ⟨dedent, r.offset, 0⟩).tell (.dedent r.offset))

/-- Takes in the width of a line. -/
def shift (width : Nat) : Recording :=
  match lx.indentation with
  | none => r
  | some (indent, dedent) =>
    let (shift, blocks) := r.blocks.line width
    let r := closeBlocks dedent shift.dedents { r with blocks }
    if shift.indent then (r.push ⟨indent, r.offset, 0⟩).tell (.indent r.offset width) else r

/-- Takes in a piece. -/
def take : Piece → Recording
  | .margin blanks =>
    (r.advance (Text.bytes blanks)).shift lx (blankWidth lx.options.tabWidth blanks)
  | .blank c => (r.flushError lx).advance c.utf8Size
  | .lineBreak crlf => (r.flushError lx).newline lx (Text.bytes (breakText crlf))
  | .comment u =>
    let r := r.flushError lx
    (r.enter (u.newlinesFrom r.offset)).advance (Text.bytes u)
  | .joint skipped crlf =>
    let len := Text.bytes (Piece.joint skipped crlf).text
    let offset := r.offset + len - 1
    (((r.enter [offset]).tell (.newline offset true)).flushError lx).advance len
  | .lexeme token u =>
    let r := r.flushError lx
    let (start, len) := (r.offset, Text.bytes u)
    let r := (r.push ⟨token, start, len⟩).tell (.token token start len)
    (r.enter (u.newlinesFrom start)).advance len
  | .stray c => { r with errorStart := some (r.errorStart.getD r.offset) }.advance c.utf8Size

/-- Ends the text. -/
def finish : Recording :=
  let r := (r.flushError lx).endLine lx 0
  let r := match lx.indentation with
    | some (_, dedent) => closeBlocks dedent r.blocks.finish.1 r
    | none => r
  (r.push ⟨lx.endOfStream, r.offset, 0⟩).tell (.token lx.endOfStream r.offset 0)

/-- What was found in a text. -/
def lexed (text : Text) : Lexed := ⟨text, r.occurrences, r.newlines, r.invalid⟩

/-- The calls for tokens, indents, dedents and errors. -/
def tokenCalls : List TraceCall := r.calls.filter (·.newline?.isNone)

/-- The newlines that were told, and whether they are escaped. -/
def newlineCalls : List (Nat × Bool) := r.calls.filterMap TraceCall.newline?

end Recording

/-- A pass over a text, recorded. -/
def Lexer.record (lx : Lexer) (text : Text) : Recording :=
  ((lx.pieces text).foldl (Recording.take lx) .start).finish lx

/-! ## The recording as a view of the events -/

/-- The call that tells an event. -/
def LexEvent.call? : LexEvent → Option TraceCall
  | token o => some (.token o.token o.start o.len)
  | indent o width => some (.indent o.start width)
  | dedent o => some (.dedent o.start)
  | error o => some (.error o.start o.len)
  | newline offset escaped => some (.newline offset escaped)
  | innerNewline _ => none

theorem eq_of_mem_innerNewlines {offset : Nat} {u : Text} {e : LexEvent}
    (h : e ∈ innerNewlines offset u) : ∃ n, e = .innerNewline n := by
  induction u generalizing offset with
  | nil => cases h
  | cons c u ih =>
    rcases List.mem_append.mp h with h | h
    · split at h
      · exact ⟨offset, List.mem_singleton.mp h⟩
      · cases h
    · exact ih h

namespace Recording

/-- A recording of some events. -/
def view (s : Progress) (es : List LexEvent) : Recording where
  offset := s.offset
  errorStart := s.strayStart
  blocks := s.blocks
  occurrences := found es
  newlines := listed es
  invalid := es.any LexEvent.isError
  calls := es.filterMap LexEvent.call?

/-- The recording shows the events so far, and the progress knows the last of their
tokens. -/
structure Shows (r : Recording) (s : Progress) (es : List LexEvent) : Prop where
  eq : r = view s es
  last_eq : s.last = (reported es).getLast?

namespace Shows

variable {lx : Lexer} {r : Recording} {s : Progress} {es : List LexEvent}

theorem advance (h : Shows r s es) (bytes : Nat) :
    Shows (r.advance bytes) (s.advance bytes) es := by
  obtain ⟨rfl, hlast⟩ := h
  exact ⟨rfl, hlast⟩

/-- A token that is appended and told is an event. -/
theorem emit (h : Shows r s es) {e : LexEvent} {o : Occurrence} {call : TraceCall}
    (ho : e.occurrence? = some o) (hcall : e.call? = some call) (hvalid : e.isError = false) :
    Shows ((r.push o).tell call) { s with last := some o.token } (es ++ [e]) := by
  obtain ⟨rfl, hlast⟩ := h
  have hnewline : e.newline? = none := by
    cases e <;> first | rfl | cases ho
  constructor
  · simp [view, push, tell, found, listed, ho, hcall, hvalid, hnewline]
  · simp [reported, found, ho]

/-- A newline that is entered and told is an event. -/
theorem newline (h : Shows r s es) (offset : Nat) (escaped : Bool) :
    Shows ((r.enter [offset]).tell (.newline offset escaped)) s
      (es ++ [.newline offset escaped]) := by
  obtain ⟨rfl, hlast⟩ := h
  constructor
  · simp [view, enter, tell, found, listed, LexEvent.occurrence?, LexEvent.newline?,
      LexEvent.call?, LexEvent.isError]
  · simpa [reported, found, LexEvent.occurrence?] using hlast

/-- Newlines inside a piece are entered and not told. -/
theorem inner (h : Shows r s es) (offset : Nat) (u : Text) :
    Shows (r.enter (u.newlinesFrom offset)) s (es ++ innerNewlines offset u) := by
  obtain ⟨rfl, hlast⟩ := h
  have hcalls : (innerNewlines offset u).filterMap LexEvent.call? = [] := by
    refine List.filterMap_eq_nil_iff.mpr fun e he => ?_
    obtain ⟨n, rfl⟩ := eq_of_mem_innerNewlines he
    rfl
  have hvalid : (innerNewlines offset u).any LexEvent.isError = false := by
    refine List.any_eq_false.mpr fun e he => ?_
    obtain ⟨n, rfl⟩ := eq_of_mem_innerNewlines he
    exact Bool.false_ne_true
  constructor
  · simp [view, enter, found_innerNewlines, listed_innerNewlines, hcalls, hvalid]
  · simpa [reported_innerNewlines] using hlast

theorem flushError (h : Shows r s es) (lx : Lexer) :
    Shows (r.flushError lx) (lx.flush s).2 (es ++ (lx.flush s).1) := by
  obtain ⟨rfl, hlast⟩ := h
  unfold Recording.flushError Lexer.flush
  show Shows (match s.strayStart with | none => _ | some start => _) _ _
  cases hstray : s.strayStart with
  | none => exact ⟨by rw [List.append_nil], by rw [List.append_nil]; exact hlast⟩
  | some start =>
    constructor
    · simp [view, push, tell, found, listed, LexEvent.occurrence?, LexEvent.newline?,
        LexEvent.call?, LexEvent.isError]
    · rw [reported_append]
      exact List.getLast?_concat.symm

theorem wantsEndOfLine (h : Shows r s es) : r.wantsEndOfLine lx = lx.dueEndOfLine s := by
  obtain ⟨rfl, hlast⟩ := h
  rw [reported, List.getLast?_map] at hlast
  unfold Recording.wantsEndOfLine Lexer.dueEndOfLine
  rw [hlast]
  show (match lx.endOfLine, (found es).getLast? with | some _, some _ => _ | _, _ => _) = _
  cases lx.endOfLine with
  | none => rfl
  | some eol => cases (found es).getLast? <;> rfl

theorem endLine (h : Shows r s es) (lx : Lexer) (len : Nat) :
    Shows (r.endLine lx len) (lx.endLine s len).2 (es ++ (lx.endLine s len).1) := by
  unfold Recording.endLine Lexer.endLine
  rw [h.wantsEndOfLine]
  cases lx.dueEndOfLine s with
  | none =>
    rw [List.append_nil]
    exact h
  | some eol =>
    have hoffset : r.offset = s.offset := by rw [h.eq]; rfl
    rw [hoffset]
    exact h.emit rfl rfl rfl

theorem closeBlocks (h : Shows r s es) (dedent : TokenId) (n : Nat) :
    Shows (Recording.closeBlocks dedent n r)
      { s with last := if n = 0 then s.last else some dedent }
      (es ++ List.replicate n (.dedent ⟨dedent, s.offset, 0⟩)) := by
  induction n generalizing r s es with
  | zero =>
    rw [List.replicate_zero, List.append_nil]
    exact h
  | succ n ih =>
    have hoffset : r.offset = s.offset := by rw [h.eq]; rfl
    have hnext := ih (h.emit (e := .dedent ⟨dedent, s.offset, 0⟩) rfl rfl rfl)
    rw [Recording.closeBlocks, hoffset, List.replicate_succ, List.append_cons]
    simpa using hnext

theorem shift (h : Shows r s es) (width : Nat) :
    Shows (r.shift lx width) (lx.shift s width).2 (es ++ (lx.shift s width).1) := by
  unfold Recording.shift Lexer.shift
  cases lx.indentation with
  | none =>
    rw [List.append_nil]
    exact h
  | some tokens =>
    obtain ⟨indent, dedent⟩ := tokens
    have hblocks : r.blocks = s.blocks := by rw [h.eq]; rfl
    dsimp only
    rw [hblocks]
    generalize s.blocks.line width = line
    have hline : Shows { r with blocks := line.2 } { s with blocks := line.2 } es := by
      obtain ⟨rfl, hlast⟩ := h
      exact ⟨rfl, hlast⟩
    have hclosed := hline.closeBlocks dedent line.1.dedents
    have hoffset : (Recording.closeBlocks dedent line.1.dedents
        { r with blocks := line.2 }).offset = s.offset := by
      rw [hclosed.eq]
      rfl
    by_cases hindent : line.1.indent
    · rw [if_pos hindent, if_pos hindent, if_pos hindent, hoffset, ← List.append_assoc]
      exact hclosed.emit rfl rfl rfl
    · rw [if_neg hindent, if_neg hindent, if_neg hindent, List.append_nil]
      exact hclosed

/-- Taking in a piece shows what is reported about it. Before a margin no stray characters
wait, as it begins a line. -/
theorem take (h : Shows r s es) {p : Piece}
    (hmargin : (∃ blanks, p = .margin blanks) → s.strayStart = none) :
    Shows (r.take lx p) (lx.emit s p).2 (es ++ (lx.emit s p).1) := by
  have hflushed := h.flushError lx
  have hoffset : (r.flushError lx).offset = (lx.flush s).2.offset := by rw [hflushed.eq]; rfl
  cases p with
  | margin blanks =>
    rw [Lexer.emit_eq (by simp) (by simp), Lexer.flush_eq (hmargin ⟨blanks, rfl⟩)]
    exact (h.advance (Text.bytes blanks)).shift _
  | blank c =>
    rw [Lexer.emit_eq (by simp) (by simp), ← List.append_assoc]
    show Shows _ _ (_ ++ [])
    rw [List.append_nil]
    exact hflushed.advance c.utf8Size
  | lineBreak crlf =>
    rw [Lexer.emit_eq (by simp) (by simp), ← List.append_assoc]
    unfold Recording.take Recording.newline
    dsimp only
    rw [hoffset]
    have hline := (hflushed.newline ((lx.flush s).2.offset + Text.bytes (breakText crlf) - 1)
      false).endLine lx (Text.bytes (breakText crlf))
    rw [List.append_assoc, List.singleton_append] at hline
    exact hline.advance _
  | comment u =>
    rw [Lexer.emit_eq (by simp) (by simp), ← List.append_assoc]
    unfold Recording.take
    dsimp only
    rw [hoffset]
    exact (hflushed.inner _ u).advance _
  | joint skipped crlf =>
    have htold := (h.newline (r.offset + Text.bytes (Piece.joint skipped crlf).text - 1)
      true).flushError lx
    have hstart : r.offset = (lx.flush s).2.offset := by
      rw [h.eq, (lx.flush_spec s).1]
      rfl
    rw [List.append_assoc, List.singleton_append, hstart] at htold
    unfold Recording.take
    dsimp only
    rw [hstart]
    exact htold.advance _
  | lexeme token u =>
    rw [Lexer.emit_eq (by simp) (by simp), ← List.append_assoc]
    unfold Recording.take
    dsimp only
    rw [hoffset]
    have hemitted := hflushed.emit
      (e := .token ⟨token, (lx.flush s).2.offset, Text.bytes u⟩) rfl rfl rfl
    have hinner := hemitted.inner (lx.flush s).2.offset u
    rw [List.append_assoc, List.singleton_append] at hinner
    exact hinner.advance _
  | stray c =>
    obtain ⟨rfl, hlast⟩ := h
    show Shows _ _ (es ++ [])
    rw [List.append_nil]
    exact ⟨rfl, hlast⟩

/-- The end of the text shows what is reported about it. -/
theorem finish (h : Shows r s es) : ∃ s', Shows (r.finish lx) s' (es ++ lx.finish s) := by
  have hended := (h.flushError lx).endLine lx 0
  rw [Lexer.finish_eq, ← List.append_assoc, ← List.append_assoc, ← List.append_assoc]
  unfold Recording.finish Lexer.closingDedents
  generalize (r.flushError lx).endLine lx 0 = r' at hended
  generalize lx.endLine (lx.flush s).2 0 = ended at hended
  have hoffset : r'.offset = ended.2.offset := by rw [hended.eq]; rfl
  have hblocks : r'.blocks = ended.2.blocks := by rw [hended.eq]; rfl
  dsimp only
  cases lx.indentation with
  | none =>
    dsimp only
    rw [List.append_nil, hoffset]
    exact ⟨_, hended.emit rfl rfl rfl⟩
  | some tokens =>
    obtain ⟨indent, dedent⟩ := tokens
    dsimp only
    rw [hblocks]
    have hclosed := hended.closeBlocks dedent ended.2.blocks.finish.1
    generalize Recording.closeBlocks dedent ended.2.blocks.finish.1 r' = r'' at hclosed
    have hoffset : r''.offset = ended.2.offset := by rw [hclosed.eq]; rfl
    rw [hoffset]
    exact ⟨_, hclosed.emit rfl rfl rfl⟩

end Shows

/-- Every piece of a text is taken in as it is reported. -/
theorem shows_run {lx : Lexer} {ps : List Piece} {atLineStart : Bool} {r : Recording}
    {s : Progress} {es : List LexEvent} (hmargins : MarginsFirst atLineStart ps)
    (h : Shows r s es) (hstart : atLineStart = true → s.strayStart = none) :
    ∃ s', Shows ((ps.foldl (Recording.take lx) r).finish lx) s' (es ++ lx.eventsFrom s ps) := by
  induction ps generalizing r s es atLineStart with
  | nil => exact h.finish
  | cons p ps ih =>
    obtain ⟨hmargin, hmargins⟩ := hmargins
    rw [List.foldl_cons, Lexer.eventsFrom, ← List.append_assoc]
    refine ih hmargins (h.take fun hblanks => hstart (hmargin hblanks)) fun hends => ?_
    obtain ⟨crlf, rfl⟩ : ∃ crlf, p = .lineBreak crlf := by
      cases p <;> first | exact ⟨_, rfl⟩ | cases hends
    exact (lx.endLine_spec (lx.flush s).2 _).2.2.trans (lx.flush_spec s).2.1

end Recording

/-- **A recorded pass.** It finds the lexed text, and the calls are the events without the
newlines inside tokens and comments. -/
theorem Lexer.record_eq (lx : Lexer) (text : Text) :
    (lx.record text).lexed text = lx.lex text ∧
      (lx.record text).calls = (lx.events text).filterMap LexEvent.call? := by
  have hstart : Recording.Shows .start .start [] := ⟨rfl, rfl⟩
  obtain ⟨s, hshows⟩ := Recording.shows_run (lx.marginsFirst_piecesFrom none true text) hstart
    fun _ => rfl
  rw [List.nil_append] at hshows
  have hview : lx.record text = Recording.view s (lx.events text) := hshows.eq
  rw [hview]
  exact ⟨rfl, rfl⟩

/-! ## The calls for tokens -/

namespace Lexer

/-- The call tells the occurrence, and tells it as a token only if the token is in `P`. -/
inductive Tells (lx : Lexer) (P : TokenId → Prop) : TraceCall → Occurrence → Prop where
  | token {t : TokenId} (ht : P t) (start len : Nat) :
      Tells lx P (.token t start len) ⟨t, start, len⟩
  | indent {tokens : TokenId × TokenId} (h : lx.indentation = some tokens) (offset width : Nat) :
      Tells lx P (.indent offset width) ⟨tokens.1, offset, 0⟩
  | dedent {tokens : TokenId × TokenId} (h : lx.indentation = some tokens) (offset : Nat) :
      Tells lx P (.dedent offset) ⟨tokens.2, offset, 0⟩
  | error (start len : Nat) : Tells lx P (.error start len) ⟨lx.error, start, len⟩

variable {lx : Lexer} {P : TokenId → Prop} {s : Progress}

/-- What occurs with an event is told. -/
def IsTold (lx : Lexer) (P : TokenId → Prop) (e : LexEvent) : Prop :=
  ∀ o ∈ e.occurrence?, ∃ call ∈ e.call?, lx.Tells P call o

theorem Tells.newline?_eq {call : TraceCall} {o : Occurrence} (h : lx.Tells P call o) :
    call.newline? = none := by
  cases h <;> rfl

theorem newline?_of_occurrence? {e : LexEvent} (h : e.occurrence? = none) :
    ∀ call ∈ e.call?, call.newline? ≠ none := by
  cases e with
  | newline offset escaped =>
    intro call hcall
    cases hcall
    exact Option.some_ne_none _
  | innerNewline offset => nofun
  | _ => cases h

/-- The calls for events that are told are their occurrences. -/
theorem forall₂_tells {es : List LexEvent} (h : ∀ e ∈ es, IsTold lx P e) :
    List.Forall₂ (lx.Tells P) ((es.filterMap LexEvent.call?).filter (·.newline?.isNone))
      (found es) := by
  induction es with
  | nil => exact .nil
  | cons e es ih =>
    obtain ⟨he, hes⟩ := List.forall_mem_cons.mp h
    rw [found, List.filterMap_cons, List.filterMap_cons]
    cases ho : e.occurrence? with
    | none =>
      have hcall := newline?_of_occurrence? ho
      cases hc : e.call? with
      | none => exact ih hes
      | some call =>
        have hsome := Option.isNone_iff_eq_none.not.mpr (hcall call hc)
        dsimp only
        rw [List.filter_cons, if_neg hsome]
        exact ih hes
    | some o =>
      obtain ⟨call, hc, htells⟩ := he o ho
      rw [Option.mem_def.mp hc]
      dsimp only
      rw [List.filter_cons_of_pos (by rw [htells.newline?_eq]; rfl)]
      exact .cons htells (ih hes)

theorem isTold_innerNewlines (offset : Nat) (u : Text) :
    ∀ e ∈ innerNewlines offset u, IsTold lx P e := by
  intro e he
  obtain ⟨n, rfl⟩ := eq_of_mem_innerNewlines he
  nofun

theorem isTold_flush (s : Progress) : ∀ e ∈ (lx.flush s).1, IsTold lx P e := by
  unfold flush
  split
  · nofun
  · refine List.forall_mem_singleton.mpr fun o ho => ?_
    cases ho
    exact ⟨_, rfl, .error _ _⟩

theorem isTold_dedents {tokens : TokenId × TokenId} (h : lx.indentation = some tokens)
    (offset n : Nat) :
    ∀ e ∈ List.replicate n (LexEvent.dedent ⟨tokens.2, offset, 0⟩), IsTold lx P e := by
  intro e he o ho
  rw [(List.mem_replicate.mp he).2] at ho ⊢
  cases ho
  exact ⟨_, rfl, .dedent h offset⟩

theorem isTold_shift (s : Progress) (width : Nat) :
    ∀ e ∈ (lx.shift s width).1, IsTold lx P e := by
  unfold shift
  cases h : lx.indentation with
  | none => nofun
  | some tokens =>
    refine List.forall_mem_append.mpr ⟨isTold_dedents h _ _, ?_⟩
    split
    · refine List.forall_mem_singleton.mpr fun o ho => ?_
      cases ho
      exact ⟨_, rfl, .indent h _ _⟩
    · nofun

section Layout

variable (hend : P lx.endOfStream) (hline : ∀ eol ∈ lx.endOfLine, P eol)

include hline in
theorem isTold_endLine (s : Progress) (len : Nat) :
    ∀ e ∈ (lx.endLine s len).1, IsTold lx P e := by
  rcases lx.endLine_cases s len with ⟨heq, -⟩ | ⟨eol, heol, last, -, -, heq⟩
  · rw [heq]
    nofun
  · rw [heq]
    refine List.forall_mem_singleton.mpr fun o ho => ?_
    cases ho
    exact ⟨_, rfl, .token (hline eol heol) _ _⟩

include hline in
theorem isTold_emit (s : Progress) {p : Piece} (hp : ∀ token u, p = .lexeme token u → P token) :
    ∀ e ∈ (lx.emit s p).1, IsTold lx P e := by
  have hpiece : ∀ s, ∀ e ∈ (lx.emitPiece s p).1, IsTold lx P e := by
    intro s
    cases p with
    | margin blanks => exact isTold_shift _ _
    | lineBreak crlf => exact List.forall_mem_cons.mpr ⟨nofun, isTold_endLine hline _ _⟩
    | comment u => exact isTold_innerNewlines _ _
    | lexeme token u =>
      refine List.forall_mem_cons.mpr ⟨fun o ho => ?_, isTold_innerNewlines _ _⟩
      cases ho
      exact ⟨_, rfl, .token (hp token u rfl) _ _⟩
    | _ => nofun
  cases p with
  | stray c => nofun
  | joint u crlf => exact List.forall_mem_cons.mpr ⟨nofun, isTold_flush s⟩
  | _ =>
    rw [emit_eq (by simp) (by simp)]
    exact List.forall_mem_append.mpr ⟨isTold_flush s, hpiece _⟩

include hend hline in
theorem isTold_finish (s : Progress) : ∀ e ∈ lx.finish s, IsTold lx P e := by
  rw [finish_eq]
  refine List.forall_mem_append.mpr ⟨List.forall_mem_append.mpr ⟨List.forall_mem_append.mpr
    ⟨isTold_flush s, isTold_endLine hline _ _⟩, ?_⟩, ?_⟩
  · unfold closingDedents
    split
    · next h => exact isTold_dedents h _ _
    · nofun
  · refine List.forall_mem_singleton.mpr fun o ho => ?_
    cases ho
    exact ⟨_, rfl, .token hend _ _⟩

include hend hline in
/-- Everything that occurs in a pass is told. -/
theorem isTold_eventsFrom {ps : List Piece} (s : Progress)
    (hps : ∀ token u, .lexeme token u ∈ ps → P token) :
    ∀ e ∈ lx.eventsFrom s ps, IsTold lx P e := by
  induction ps generalizing s with
  | nil => exact isTold_finish hend hline s
  | cons p ps ih =>
    rw [eventsFrom]
    refine List.forall_mem_append.mpr ⟨isTold_emit hline s fun token u hp => ?_,
      ih _ fun token u hmem => hps token u (List.mem_cons_of_mem p hmem)⟩
    exact hps token u (hp ▸ List.mem_cons_self)

end Layout

/-- The token is the one for errors, or one for blocks. -/
def Reserves (lx : Lexer) (token : TokenId) : Prop :=
  token = lx.error ∨ ∃ tokens, lx.indentation = some tokens ∧ (token = tokens.1 ∨ token = tokens.2)

/-- Errors, indents and dedents have different tokens. -/
def TellsApart (lx : Lexer) : Prop :=
  ∀ indent dedent, lx.indentation = some (indent, dedent) →
    indent ≠ dedent ∧ indent ≠ lx.error ∧ dedent ≠ lx.error

section Built

variable {t : TokenTable} (hlx : lx.MadeFrom t) (hfit : TokenTable.RolesFit t.tokens t.roles)
include hlx

theorem role_of_reserves {token : TokenId} (h : lx.Reserves token) :
    ∃ role, t.role? role = some token ∧ role ≠ .endOfStream ∧ role ≠ .endOfLine := by
  rcases h with rfl | ⟨tokens, htokens, hside⟩
  · exact ⟨.error, hlx.error, by decide, by decide⟩
  · rw [hlx.indentation] at htokens
    obtain ⟨indent, hindent, hmap⟩ := Option.bind_eq_some_iff.mp htokens
    obtain ⟨dedent, hdedent, rfl⟩ := Option.map_eq_some_iff.mp hmap
    rcases hside with rfl | rfl
    · exact ⟨.indent, hindent, by decide, by decide⟩
    · exact ⟨.dedent, hdedent, by decide, by decide⟩

include hfit

theorem tellsApart_of_rolesFit : lx.TellsApart := by
  intro indent dedent h
  rw [hlx.indentation] at h
  obtain ⟨indent', hindent, hmap⟩ := Option.bind_eq_some_iff.mp h
  obtain ⟨dedent', hdedent, heq⟩ := Option.map_eq_some_iff.mp hmap
  cases heq
  refine ⟨fun heq => ?_, fun heq => ?_, fun heq => ?_⟩
  · cases TokenTable.role?_inj hfit hindent (heq ▸ hdedent)
  · cases TokenTable.role?_inj hfit hindent (heq ▸ hlx.error)
  · cases TokenTable.role?_inj hfit hdedent (heq ▸ hlx.error)

/-- No other token than those for errors and blocks is taken for one of them. -/
theorem isTold_of_rolesFit (text : Text) :
    ∀ e ∈ lx.events text, IsTold lx (¬ lx.Reserves ·) e := by
  refine isTold_eventsFrom (fun hend => ?_) (fun eol heol hreserves => ?_) .start
    fun token u hmem hreserves => ?_
  · obtain ⟨role, hrole, hne, -⟩ := role_of_reserves hlx hend
    exact hne (TokenTable.role?_inj hfit hrole hlx.endOfStream)
  · obtain ⟨role, hrole, -, hne⟩ := role_of_reserves hlx hreserves
    exact hne (TokenTable.role?_inj hfit hrole (hlx.endOfLine.trans heol))
  · obtain ⟨role, hrole, -, -⟩ := role_of_reserves hlx hreserves
    exact lexeme_ne_role hlx hfit hmem hrole

end Built

end Lexer

/-! ## The calls for newlines -/

namespace Piece

/-- The newline that a piece ends with, if it is a line break or a joint, and whether it is
escaped. -/
def ends (offset : Nat) (p : Piece) : List (Nat × Bool) :=
  match p with
  | lineBreak _ => [(offset + Text.bytes p.text - 1, false)]
  | joint _ _ => [(offset + Text.bytes p.text - 1, true)]
  | _ => []

/-- Whether a piece is a comment or a lexeme that goes over several lines. -/
def Spans : Piece → Prop
  | comment u | lexeme _ u => '\n' ∈ u
  | _ => False

end Piece

/-- The newlines that line breaks and joints end with, the first piece at an offset. -/
def endsFrom (offset : Nat) : List Piece → List (Nat × Bool)
  | [] => []
  | p :: ps => p.ends offset ++ endsFrom (offset + Text.bytes p.text) ps

/-- The newline that is told of an event. -/
def LexEvent.told? (e : LexEvent) : Option (Nat × Bool) := e.call?.bind TraceCall.newline?

namespace Lexer

variable {lx : Lexer}

/-- Only newlines of the index are told. -/
theorem told_eq_nil {es : List LexEvent} (h : listed es = []) :
    es.filterMap LexEvent.told? = [] := by
  refine List.filterMap_eq_nil_iff.mpr fun e he => ?_
  have hnone := List.filterMap_eq_nil_iff.mp h e he
  cases e with
  | newline offset escaped => cases hnone
  | _ => rfl

theorem told_innerNewlines (offset : Nat) (u : Text) :
    (innerNewlines offset u).filterMap LexEvent.told? = [] := by
  refine List.filterMap_eq_nil_iff.mpr fun e he => ?_
  obtain ⟨n, rfl⟩ := eq_of_mem_innerNewlines he
  rfl

theorem told_emitPiece (s : Progress) {p : Piece} (hjoint : ∀ u crlf, p ≠ .joint u crlf) :
    (lx.emitPiece s p).1.filterMap LexEvent.told? = p.ends s.offset := by
  cases p with
  | margin blanks => exact told_eq_nil (shift_enters lx _ _).1
  | lineBreak crlf =>
    show (s.offset + Text.bytes (breakText crlf) - 1, false) ::
      (lx.endLine s _).1.filterMap LexEvent.told? = _
    rw [told_eq_nil (endLine_enters lx s _).1]
    rfl
  | comment u => exact told_innerNewlines s.offset u
  | joint u crlf => exact absurd rfl (hjoint u crlf)
  | lexeme token u => exact told_innerNewlines s.offset u
  | _ => rfl

/-- Of a piece the newline that it ends with is told. -/
theorem told_emit (s : Progress) (p : Piece) :
    (lx.emit s p).1.filterMap LexEvent.told? = p.ends s.offset := by
  have hflush := told_eq_nil (flush_enters lx s).1
  have hoffset := (flush_enters lx s).2
  cases p with
  | stray c => rfl
  | joint u crlf =>
    show ((lx.flush s).2.offset + Text.bytes (Piece.joint u crlf).text - 1, true) ::
      (lx.flush s).1.filterMap LexEvent.told? = _
    rw [hflush, hoffset]
    rfl
  | _ =>
    rw [emit_eq (by simp) (by simp), List.filterMap_append, hflush, List.nil_append,
      told_emitPiece _ (by simp), hoffset]

theorem told_eventsFrom (s : Progress) (ps : List Piece) :
    (lx.eventsFrom s ps).filterMap LexEvent.told? = endsFrom s.offset ps := by
  induction ps generalizing s with
  | nil => exact told_eq_nil (finish_enters lx s)
  | cons p ps ih =>
    rw [eventsFrom, List.filterMap_append, told_emit, ih, emit_offset, endsFrom]

/-- A piece enters the newline that it ends with, and others if it goes over several
lines. -/
theorem ends_sublist {before after : Text} {p : Piece} (hcut : Cut lx before after p)
    (hstray : p ≠ .stray '\n') (offset : Nat) :
    ((p.ends offset).map (·.1)).Sublist (p.entered offset) ∧
      ((p.ends offset).map (·.1) = p.entered offset ↔ ¬ p.Spans) := by
  -- a piece that ends no line, told by the newlines of its text
  have hinner : ∀ u : Text, ([] : List Nat).Sublist (u.newlinesFrom offset) ∧
      ([] = u.newlinesFrom offset ↔ '\n' ∉ u) := fun u =>
    ⟨List.nil_sublist _, eq_comm.trans Text.newlinesFrom_eq_nil_iff⟩
  cases hcut with
  | @margin blanks hblanks =>
    have hnone : '\n' ∉ blanks := fun h => absurd (hblanks _ h) (by decide)
    exact ⟨(hinner blanks).1, (hinner blanks).2.trans (iff_of_true hnone id)⟩
  | @blank c hc =>
    have hnone : '\n' ∉ [c] := by
      intro h
      rw [← List.mem_singleton.mp h] at hc
      revert hc
      decide
    exact ⟨(hinner [c]).1, (hinner [c]).2.trans (iff_of_true hnone id)⟩
  | lineBreak crlf =>
    have heq : ((Piece.lineBreak crlf).ends offset).map (·.1) =
        (Piece.lineBreak crlf).entered offset := by
      cases crlf <;> rfl
    exact ⟨heq ▸ List.Sublist.refl _, iff_of_true heq id⟩
  | @joint u crlf _ _ =>
    have heq : ((Piece.joint u crlf).ends offset).map (·.1) =
        (Piece.joint u crlf).entered offset := by
      show [offset + Text.bytes (Piece.joint u crlf).text - 1] = _
      rw [Piece.text, Text.bytes_append, Piece.entered, ← Nat.add_assoc]
      cases crlf <;> rfl
    exact ⟨heq ▸ List.Sublist.refl _, iff_of_true heq id⟩
  | @comment u _ _ => exact hinner u
  | @lexeme t u _ => exact hinner u
  | stray c =>
    have hnone : '\n' ∉ [c] := fun h => hstray (by rw [List.mem_singleton.mp h])
    exact ⟨(hinner [c]).1, (hinner [c]).2.trans (iff_of_true hnone id)⟩

theorem append_eq_append_iff_of_sublist {α : Type} {as as' bs bs' : List α}
    (ha : as.Sublist as') (hb : bs.Sublist bs') :
    as ++ bs = as' ++ bs' ↔ as = as' ∧ bs = bs' := by
  constructor
  · intro h
    have hlength := congrArg List.length h
    have hle := ha.length_le
    have hle' := hb.length_le
    simp only [List.length_append] at hlength
    exact ⟨ha.eq_of_length (by omega), hb.eq_of_length (by omega)⟩
  · rintro ⟨rfl, rfl⟩
    rfl

/-- What line breaks and joints end with is in the index, and is all of it if no comment and
no lexeme goes over several lines. -/
theorem endsFrom_sublist {before rest : Text} {ps : List Piece} (hcuts : Cuts lx before rest ps)
    (hstray : ∀ p ∈ ps, p ≠ .stray '\n') (offset : Nat) :
    ((endsFrom offset ps).map (·.1)).Sublist (enteredFrom offset ps) ∧
      ((endsFrom offset ps).map (·.1) = enteredFrom offset ps ↔ ∀ p ∈ ps, ¬ p.Spans) := by
  induction hcuts generalizing offset with
  | nil => simp [endsFrom, enteredFrom]
  | @cons before after p ps hcut _ ih =>
    obtain ⟨hp, hps⟩ := List.forall_mem_cons.mp hstray
    obtain ⟨hsub, hiff⟩ := ends_sublist hcut hp offset
    obtain ⟨hsub', hiff'⟩ := ih hps (offset + Text.bytes p.text)
    rw [endsFrom, enteredFrom, List.map_append]
    refine ⟨hsub.append hsub', ?_⟩
    rw [append_eq_append_iff_of_sublist hsub hsub', hiff, hiff', List.forall_mem_cons]

/-! ## The result -/

/-- **What a tracer is told.** A pass that is traced finds the lexed text. Its calls but those
for newlines tell the occurrences, one by one and in order, with their offsets and lengths;
if the table is one that declarations make, the token of an occurrence decides whether it is
told as a token, an indent, a dedent or an error. The newlines that are told are those that
line breaks and joints end with, and the latter are the escaped ones. They are in the index,
in order, and they are all of it exactly if no comment and no lexeme goes over several
lines. -/
theorem trace_exact (lx : Lexer) (text : Text) :
    (lx.record text).lexed text = lx.lex text ∧
      List.Forall₂ (lx.Tells fun _ => True) (lx.record text).tokenCalls
        (lx.lex text).occurrences ∧
      (∀ decls t options, TokenTable.ofDecls decls = .ok t → ofTable t options = .ok lx →
        lx.TellsApart ∧ List.Forall₂ (lx.Tells (¬ lx.Reserves ·)) (lx.record text).tokenCalls
          (lx.lex text).occurrences) ∧
      (lx.record text).newlineCalls = endsFrom 0 (lx.pieces text) ∧
      ((lx.record text).newlineCalls.map (·.1)).Sublist (lx.lex text).newlines ∧
      ((lx.record text).newlineCalls.map (·.1) = (lx.lex text).newlines ↔
        ∀ p ∈ lx.pieces text, ¬ p.Spans) := by
  obtain ⟨hlexed, hcalls⟩ := lx.record_eq text
  have htokens : (lx.record text).tokenCalls =
      ((lx.events text).filterMap LexEvent.call?).filter (·.newline?.isNone) := by
    rw [Recording.tokenCalls, hcalls]
  have hnewlines : (lx.record text).newlineCalls = endsFrom 0 (lx.pieces text) := by
    rw [Recording.newlineCalls, hcalls, List.filterMap_filterMap]
    exact told_eventsFrom .start (lx.pieces text)
  have hends := endsFrom_sublist (pieces_cuts lx text) (piecesFrom_ne_stray lx none true text) 0
  rw [← hnewlines, ← newlines_lex] at hends
  refine ⟨hlexed, ?_, fun decls t options ht hlx => ?_, hnewlines, hends⟩
  · rw [htokens]
    exact forall₂_tells (isTold_eventsFrom trivial (fun _ _ => trivial) .start fun _ _ _ => trivial)
  · have hmade := madeFrom_ofTable hlx
    have hfit := TokenTable.rolesFit_ofDecls ht
    rw [htokens]
    exact ⟨tellsApart_of_rolesFit hmade hfit, forall₂_tells (isTold_of_rolesFit hmade hfit text)⟩

/-- A block is opened and closed, and no piece goes over several lines. -/
theorem trace_of_outline : ∃ lx, ofTable outlineTable .default = .ok lx ∧
    (lx.record "a\n  b".toList).calls = [.token 5 0 1, .newline 1 false, .token 4 1 1, .indent 4 2,
      .token 5 4 1, .token 4 5 0, .dedent 5, .token 0 5 0] ∧
    lx.TellsApart ∧
    List.Forall₂ (lx.Tells (¬ lx.Reserves ·)) (lx.record "a\n  b".toList).tokenCalls
      (lx.lex "a\n  b".toList).occurrences ∧
    ∀ p ∈ lx.pieces "a\n  b".toList, ¬ p.Spans := by
  have heval : (ofTable outlineTable .default).map (fun lx =>
      ((lx.record "a\n  b".toList).calls, (lx.lex "a\n  b".toList).newlines)) =
      .ok ([.token 5 0 1, .newline 1 false, .token 4 1 1, .indent 4 2, .token 5 4 1, .token 4 5 0,
        .dedent 5, .token 0 5 0], [1]) := by cbv
  cases hlx : ofTable outlineTable .default with
  | error e =>
    rw [hlx] at heval
    cases heval
  | ok lx =>
    rw [hlx] at heval
    obtain ⟨hcalls, hnewlines⟩ := Prod.mk.inj (Except.ok.inj heval)
    have ht : TokenTable.ofDecls outlineTable.tokens = .ok outlineTable := by cbv
    obtain ⟨-, -, hbuilt, -, -, hiff⟩ := trace_exact lx "a\n  b".toList
    obtain ⟨hapart, htells⟩ := hbuilt _ _ _ ht hlx
    refine ⟨lx, rfl, hcalls, hapart, htells, hiff.mp ?_⟩
    rw [Recording.newlineCalls, hcalls, hnewlines]
    rfl

/-- Words and comments may go over several lines. -/
def longPieces : Option Lexer :=
  (TokenTable.ofDecls [.playing (.named "End") .endOfStream, .playing (.named "Error") .error,
    .withPattern (.named "Word") "a\nb"]).toOption.bind fun t =>
      (ofTable t ⟨4, false, some "#[^#]*#"⟩).toOption

/-- The newlines inside a word and inside a comment are in the index and are not told. -/
theorem trace_of_longPieces : ∃ lx, longPieces = some lx ∧
    (lx.lex "a\nb#\n#".toList).newlines = [1, 4] ∧
    (lx.record "a\nb#\n#".toList).calls = [.token 2 0 3, .token 0 6 0] := by
  have heval : (longPieces.map fun lx => ((lx.lex "a\nb#\n#".toList).newlines,
      (lx.record "a\nb#\n#".toList).calls)) = some ([1, 4], [.token 2 0 3, .token 0 6 0]) := by cbv
  obtain ⟨lx, hlx, heq⟩ := Option.map_eq_some_iff.mp heval
  obtain ⟨hnewlines, hcalls⟩ := Prod.mk.inj heq
  exact ⟨lx, hlx, hnewlines, hcalls⟩

end Lexer
end GrammarKit
