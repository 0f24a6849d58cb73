import GrammarKit.Proofs.Fault
import GrammarKit.Proofs.Lexing.Recognition

/-!
# Which tables have a lexer

Building a lexer has one fault that concerns the recognizers: a literal set with
an empty literal (`compile_fault_iff`). A table that was made from declarations
has its literals checked, but a name that stands for a literal is spelled out
later. So such a table faults exactly at a token that is found by its name and
has an empty one (`ofTable_fault_iff_of_ofDecls`), and no lexer ever holds an
empty literal (`Lexer.literals_ne_nil`).
-/
namespace GrammarKit

/-- The token is found by literals, its own name included, one of which is
empty. -/
def TokenDecl.HasEmptyLiteral (d : TokenDecl) : Prop :=
  ∃ options, d.spelledRecognizer = some (.literals options) ∧ "" ∈ options

theorem any_isEmpty_map_toList {options : List String} :
    (options.map (·.toList)).any (·.isEmpty) = true ↔ "" ∈ options := by
  constructor
  · intro h
    obtain ⟨l, hl, hempty⟩ := List.any_eq_true.mp h
    obtain ⟨s, hs, rfl⟩ := List.mem_map.mp hl
    rw [List.isEmpty_iff, String.toList_eq_nil_iff] at hempty
    exact hempty ▸ hs
  · exact fun h => List.any_eq_true.mpr ⟨_, List.mem_map_of_mem h, rfl⟩

namespace Matcher

/-- A recognizer has no matcher for no other reason than an empty literal,
unless the pattern is refused. -/
theorem compile_fault_iff {d : TokenDecl} {f : Fault} :
    compile d = .error (.fault f) ↔ f = .emptyLiteral ∧ d.HasEmptyLiteral := by
  unfold compile TokenDecl.HasEmptyLiteral
  cases hspelled : d.spelledRecognizer with
  | none => simp
  | some r =>
    cases r with
    | literals options =>
      by_cases hempty : (options.map (·.toList)).any (·.isEmpty) = true
      · have hmem := any_isEmpty_map_toList.mp hempty
        simp [LiteralSet.ofList, hempty, Failure.ofFault, Except.map, hmem, eq_comm]
      · have hmem := mt any_isEmpty_map_toList.mpr hempty
        simp [LiteralSet.ofList, hempty, Failure.ofFault, Except.map, hmem]
    | pattern source start =>
      dsimp only
      split <;> simp
    | ownName => simp

/-- A compiled set of literals has no empty one. -/
theorem literals_ne_nil_of_compile {d : TokenDecl} {s : LiteralSet}
    (h : compile d = .ok (some (.literals s))) : [] ∉ s.literals := by
  unfold compile at h
  split at h
  · cases h
  · next options _ =>
    unfold LiteralSet.ofList at h
    split at h
    · cases h
    · next hempty =>
      cases h
      intro hmem
      rw [List.mem_mergeSort] at hmem
      exact hempty (List.any_eq_true.mpr ⟨[], hmem, rfl⟩)
  · split at h <;> cases h
  · cases h

end Matcher

namespace Lexer

variable {t : TokenTable} {options : LexerOptions}

/-- What a lexer asks for before it looks at the recognizers. -/
def Demanded (t : TokenTable) (options : LexerOptions) : Prop :=
  (∃ id, t.role? .endOfStream = some id) ∧ (∃ id, t.role? .error = some id) ∧
    options.tabWidth ≠ 0

theorem commentPattern_not_fault (options : LexerOptions) (f : Fault) :
    commentPattern options ≠ .error (.fault f) := by
  unfold commentPattern
  split
  · simp
  · split <;> simp

theorem hasStrayParent_iff : hasStrayParent t = true ↔
    ∃ d ∈ t.tokens, ∃ link, d.parent = some link ∧ t.size ≤ link.id := by
  simp [hasStrayParent, Option.any_eq_true]

/-- Building a lexer faults at a recognizer or at a parent that does not exist,
once everything that it demands is there. -/
theorem ofTable_fault_iff {f : Fault} :
    ofTable t options = .error (.fault f) ↔
      Demanded t options ∧ (t.tokens.mapM Matcher.compile = .error (.fault f) ∨
        Succeeds (t.tokens.mapM Matcher.compile) ∧ hasStrayParent t = true ∧ f = .outOfRange) := by
  unfold ofTable Demanded
  have hcomments := commentPattern_not_fault options f
  cases heos : t.role? .endOfStream with
  | none => simp [needRole, heos, bind, Except.bind]
  | some eos =>
  cases herror : t.role? .error with
  | none => simp [needRole, heos, herror, bind, Except.bind]
  | some error =>
  by_cases htab : options.tabWidth = 0
  · simp [needRole, heos, herror, htab, bind, Except.bind, throw, throwThe, MonadExceptOf.throw]
  cases hmatchers : t.tokens.mapM Matcher.compile with
  | error e => simp [needRole, heos, herror, htab, bind, Except.bind]
  | ok matchers =>
  by_cases hstray : hasStrayParent t = true
  · simp [needRole, heos, herror, htab, hstray, bind, Except.bind, throw, throwThe,
      MonadExceptOf.throw, eq_comm]
  · cases hpattern : commentPattern options with
    | error e =>
      rw [hpattern] at hcomments
      simpa [needRole, heos, herror, htab, hstray, bind, Except.bind] using hcomments
    | ok comments => simp [needRole, heos, herror, htab, hstray, bind, Except.bind, pure, Except.pure]

/-- No literal that a lexer looks for is empty. -/
theorem MadeFrom.literals_ne_nil {lx : Lexer} (h : lx.MadeFrom t) {s : LiteralSet}
    (hs : some (.literals s) ∈ lx.matchers) : [] ∉ s.literals := by
  obtain ⟨d, -, hd⟩ := exists_of_mem_mapM h.matchers _ hs
  exact Matcher.literals_ne_nil_of_compile hd

end Lexer

namespace TokenTable

variable {decls : List TokenDecl} {t : TokenTable}

/-- The parents of a declared table are tokens of it. -/
theorem hasStrayParent_ofDecls (h : ofDecls decls = .ok t) : Lexer.hasStrayParent t = false := by
  have htokens := tokens_ofDecls h
  unfold Lexer.hasStrayParent size
  rw [htokens, List.any_eq_false]
  intro d hd
  have hlt := parent_lt (declError?_eq_none_of_ofDecls h d hd)
  cases hparent : d.parent with
  | none => simp
  | some link => simpa using hlt link hparent

/-- What the check of literals leaves open: a token found by its name, which is
empty. -/
theorem hasEmptyLiteral_iff_of_ofDecls (h : ofDecls decls = .ok t) {d : TokenDecl} (hd : d ∈ decls) :
    d.HasEmptyLiteral ↔ d.recognizer = some .ownName ∧ d.name = "" := by
  have hchecked := literalError?_eq_none (declError?_eq_none_of_ofDecls h d hd)
  unfold declError?.literalError? at hchecked
  unfold TokenDecl.HasEmptyLiteral TokenDecl.spelledRecognizer
  cases hrec : d.recognizer with
  | none => simp
  | some r =>
    cases r with
    | literals options =>
      rw [hrec] at hchecked
      dsimp only at hchecked
      split at hchecked
      · cases hchecked
      · split at hchecked
        · cases hchecked
        · next hany => simpa using hany
    | pattern source start => simp
    | ownName =>
      constructor
      · rintro ⟨options, hspelled, hmem⟩
        cases hspelled
        exact ⟨rfl, (List.mem_singleton.mp hmem).symm⟩
      · rintro ⟨-, hname⟩
        exact ⟨[d.name], rfl, by simp [hname]⟩

end TokenTable

namespace Lexer

variable {decls : List TokenDecl} {t : TokenTable}

/-- A declared table makes the building of a lexer fault exactly if its first
token that has no matcher is found by its name and has an empty one. It is never
a fault of anything else, and the literals of every lexer have a character. -/
theorem ofTable_fault_iff_of_ofDecls (h : TokenTable.ofDecls decls = .ok t)
    (options : LexerOptions) :
    (∀ f, ofTable t options = .error (.fault f) ↔
      f = .emptyLiteral ∧ Demanded t options ∧
        ∃ before d after, decls = before ++ d :: after ∧
          (∀ e ∈ before, Succeeds (Matcher.compile e)) ∧
          d.recognizer = some .ownName ∧ d.name = "") ∧
    ∀ lx, ofTable t options = .ok lx → ∀ s, some (.literals s) ∈ lx.matchers → [] ∉ s.literals := by
  refine ⟨fun f => ?_, fun lx hlx s hs => (madeFrom_ofTable hlx).literals_ne_nil hs⟩
  rw [ofTable_fault_iff, TokenTable.hasStrayParent_ofDecls h, TokenTable.tokens_ofDecls h,
    mapM_eq_error_iff]
  constructor
  · rintro ⟨hneeds, ⟨before, d, after, hdecls, hbefore, hd⟩ | ⟨-, hstray, -⟩⟩
    · obtain ⟨rfl, hempty⟩ := Matcher.compile_fault_iff.mp hd
      have hmem : d ∈ decls := by simp [hdecls]
      exact ⟨rfl, hneeds, before, d, after, hdecls, hbefore,
        (TokenTable.hasEmptyLiteral_iff_of_ofDecls h hmem).mp hempty⟩
    · cases hstray
  · rintro ⟨rfl, hneeds, before, d, after, hdecls, hbefore, hname⟩
    have hmem : d ∈ decls := by simp [hdecls]
    refine ⟨hneeds, .inl ⟨before, d, after, hdecls, hbefore, Matcher.compile_fault_iff.mpr ⟨rfl, ?_⟩⟩⟩
    exact (TokenTable.hasEmptyLiteral_iff_of_ofDecls h hmem).mpr hname

/-- Tokens of which one is found by its name, although it has none. -/
def nameless : List TokenDecl :=
  [(TokenDecl.named "End").playing .endOfStream, (TokenDecl.named "Error").playing .error,
    (TokenDecl.named "").withOwnName]

def namelessTable : TokenTable := ⟨nameless, ⟨some 0, some 1, none, none, none⟩⟩

/-- The check of declarations accepts a token that is found by an empty name, and
no lexer is made of it. -/
theorem ofTable_nameless :
    TokenTable.ofDecls nameless = .ok namelessTable ∧
      ofTable namelessTable .default = .error (.fault .emptyLiteral) :=
  ⟨rfl, rfl⟩

/-- The token without a name is the one that the building faults at. -/
theorem ofTable_nameless_fault :
    TokenTable.ofDecls nameless = .ok namelessTable ∧
      ∃ before d after, nameless = before ++ d :: after ∧
        d.recognizer = some .ownName ∧ d.name = "" := by
  have h : TokenTable.ofDecls nameless = .ok namelessTable := rfl
  obtain ⟨-, -, before, d, after, hdecls, -, hname⟩ :=
    ((ofTable_fault_iff_of_ofDecls h .default).1 .emptyLiteral).mp rfl
  exact ⟨h, before, d, after, hdecls, hname⟩

end Lexer
end GrammarKit
