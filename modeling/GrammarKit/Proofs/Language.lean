import GrammarKit.Language
import GrammarKit.Proofs.Compile.Storable
import GrammarKit.Proofs.Lexing.Blocks
import GrammarKit.Proofs.Lexing.Construction

/-!
# Languages survive as blobs

`Grammar.ofBlob_toBlob_of_obtained`: every grammar that was compiled or read from
a blob is the grammar of its blob, and a language over it comes back with the
same grammar and lexes every text as before.

Other bytes can spell a grammar, too, and its token table was never checked as
one that is declared. `Language.ofBlob_fault_iff` says what is then wrong with
the table, if no language can be made of the grammar.
-/
namespace GrammarKit

namespace Grammar

/-- The two ways to come by a grammar: compile a checked token table and a
declaration, or read a blob. What is declared is storable, and tokens and rules
are as many as there are words to number them. -/
inductive Obtained : Grammar → Prop where
  | compiled {options : Compile.Options} {decls : List TokenDecl} {tokens : TokenTable}
      {d : Declaration} {start : String} {g : Grammar} :
      TokenTable.ofDecls decls = .ok tokens → (∀ t ∈ decls, t.Storable) → d.Storable →
      (Compile.compile options tokens d start).outcome = .ok g → g.entityCount ≤ 2 ^ 32 →
      Obtained g
  | read {bytes : List UInt8} {g : Grammar} : ofBlob bytes = .ok g → Obtained g

variable {g : Grammar}

theorem Obtained.storable (hg : g.Obtained) : g.Storable ∧ g.inconsistency? = none := by
  cases hg with
  | compiled htokens hdecls hd h hsize => exact Compile.compile_storable htokens hdecls hd h hsize
  | read h => exact storable_of_ofBlob h

/-- **Blobs of languages.** A grammar that was compiled or read from a blob is the
grammar of its blob. The map from names to kinds, which is not stored, finds the same
when it is made again from the names. A language over the grammar survives as a blob,
too: it has the same grammar and lexes every text as before. -/
theorem ofBlob_toBlob_of_obtained (hg : g.Obtained) : ofBlob g.toBlob = .ok g ∧
    (∀ name, g.kinds.index.get? name = g.kinds.get? name) ∧
    ∀ options l, Language.ofGrammar g options = .ok l →
      ∃ l', Language.ofBlob l.toBlob options = .ok l' ∧ l'.grammar = l.grammar ∧
        ∀ text, l'.lex text = l.lex text := by
  obtain ⟨hstorable, hok⟩ := hg.storable
  have hround := ofBlob_toBlob hstorable hok
  refine ⟨hround, g.kinds.get?_index, fun options l hl => ⟨l, ?_, rfl, fun _ => rfl⟩⟩
  have hgrammar : l.grammar = g := by
    unfold Language.ofGrammar at hl
    split at hl
    · cases hl
      rfl
    · cases hl
    · cases hl
  rw [Language.ofBlob, Language.toBlob, hgrammar, hround]
  exact hl

end Grammar

/-- The lines of an outline without blocks. -/
def outline : Declaration where
  kinds := ⟨["outline", "entry"]⟩
  rules := [⟨"outline", 0, 0, [⟨"entries", .list 1 none 1 (some (.terminator 4))⟩]⟩,
    ⟨"entry", 1, 0, [⟨"word", .terminal [5] false⟩]⟩]

/-- The grammar of outlines, compiled. -/
def outlineGrammar : Grammar where
  tokens := Lexer.outlineTable
  kinds := outline.kinds
  start := 0
  endOfStream := 0
  ranks := ⟨[(0, 0), (1, 0)], [(⟨0, 0⟩, [6]), (⟨1, 0⟩, [7])]⟩
  rules := [⟨6, ⟨0, 0⟩, .declared "outline" 0, [.nonTerminal [8, 9]], [true], [5], [0]⟩,
    ⟨7, ⟨1, 0⟩, .declared "entry" 1, [.terminal [5]], [true], [5], [0, 4]⟩,
    ⟨8, ⟨1, 0⟩, .listLast, [.nonTerminal [7], .terminal [4]], [], [5], [0]⟩,
    ⟨9, ⟨1, 0⟩, .listMore, [.nonTerminal [7], .terminal [4], .nonTerminal [8, 9]], [], [5], [0]⟩]
  substitutes := []
  initial := [6]

theorem obtained_outlineGrammar : outlineGrammar.Obtained := by
  have htokens : TokenTable.ofDecls Lexer.outlineTable.tokens = .ok Lexer.outlineTable := by cbv
  have hcompile : (Compile.compile .default Lexer.outlineTable outline "outline").outcome =
      .ok outlineGrammar := by cbv
  have hdecls : ∀ t ∈ Lexer.outlineTable.tokens, t.Storable := by decide
  have hd : outline.Storable := by decide
  exact .compiled htokens hdecls hd hcompile (by decide)

/-- Outlines survive as a blob, with their lexer. -/
theorem outline_survives : Grammar.ofBlob outlineGrammar.toBlob = .ok outlineGrammar ∧
    outlineGrammar.kinds.index.get? "entry" = some 1 ∧
    ∃ l l', Language.ofGrammar outlineGrammar .default = .ok l ∧
      Language.ofBlob l.toBlob .default = .ok l' ∧ l'.grammar = l.grammar ∧
      ∀ text, l'.lex text = l.lex text := by
  have heval : (Lexer.ofTable Lexer.outlineTable .default).map (·.endOfStream) = .ok 0 := by cbv
  cases hlx : Lexer.ofTable Lexer.outlineTable .default with
  | error e =>
    rw [hlx] at heval
    cases heval
  | ok lx =>
    have hl : Language.ofGrammar outlineGrammar .default = .ok ⟨outlineGrammar, lx⟩ := by
      unfold Language.ofGrammar
      rw [show outlineGrammar.tokens = Lexer.outlineTable from rfl, hlx]
    obtain ⟨hround, hnames, hlanguage⟩ :=
      Grammar.ofBlob_toBlob_of_obtained obtained_outlineGrammar
    obtain ⟨l', hl'⟩ := hlanguage .default _ hl
    exact ⟨hround, hnames "entry", _, l', hl, hl'⟩

namespace Language

theorem ofBlob_eq_ofGrammar {bytes : List UInt8} {g : Grammar} {options : LexerOptions}
    (h : Grammar.ofBlob bytes = .ok g) : ofBlob bytes options = ofGrammar g options := by
  unfold ofBlob
  rw [h]

theorem ofGrammar_fault_iff {g : Grammar} {options : LexerOptions} {f : Fault} :
    ofGrammar g options = .error (.fault f) ↔
      Lexer.ofTable g.tokens options = .error (.fault f) := by
  unfold ofGrammar
  split
  · next lexer hlexer => simp [hlexer]
  · next e hlexer => simp [hlexer]
  · next f' hlexer => simp [hlexer]

/-- **Blobs that fault.** Restoring a language from bytes faults for two reasons
only, both of which lie in a token table that a grammar was read with: the first
token without a matcher is found by an empty literal, or all have their matchers
and one has a parent that does not exist. Everything else gives a language or an
error. -/
theorem ofBlob_fault_iff (bytes : List UInt8) (options : LexerOptions) (f : Fault) :
    ofBlob bytes options = .error (.fault f) ↔
      ∃ g, Grammar.ofBlob bytes = .ok g ∧ Lexer.Demanded g.tokens options ∧
        ((f = .emptyLiteral ∧ ∃ before d after, g.tokens.tokens = before ++ d :: after ∧
            (∀ e ∈ before, Succeeds (Matcher.compile e)) ∧ d.HasEmptyLiteral) ∨
          (f = .outOfRange ∧ (∀ d ∈ g.tokens.tokens, Succeeds (Matcher.compile d)) ∧
            ∃ d ∈ g.tokens.tokens, ∃ link, d.parent = some link ∧ g.tokens.size ≤ link.id)) := by
  have hofBlob : ofBlob bytes options = .error (.fault f) ↔
      ∃ g, Grammar.ofBlob bytes = .ok g ∧ ofGrammar g options = .error (.fault f) := by
    unfold ofBlob
    cases Grammar.ofBlob bytes <;> simp
  rw [hofBlob]
  refine exists_congr fun g => and_congr_right fun _ => ?_
  rw [ofGrammar_fault_iff, Lexer.ofTable_fault_iff, Lexer.hasStrayParent_iff, mapM_eq_error_iff,
    succeeds_mapM_iff]
  refine and_congr_right fun _ => or_congr ?_ ?_
  · constructor
    · rintro ⟨before, d, after, htokens, hbefore, hd⟩
      obtain ⟨rfl, hempty⟩ := Matcher.compile_fault_iff.mp hd
      exact ⟨rfl, before, d, after, htokens, hbefore, hempty⟩
    · rintro ⟨rfl, before, d, after, htokens, hbefore, hempty⟩
      exact ⟨before, d, after, htokens, hbefore, Matcher.compile_fault_iff.mpr ⟨rfl, hempty⟩⟩
  · constructor
    · rintro ⟨hmatchers, hstray, rfl⟩
      exact ⟨rfl, hmatchers, hstray⟩
    · rintro ⟨rfl, hmatchers, hstray⟩
      exact ⟨hmatchers, hstray, rfl⟩

/-- A grammar of one word, however the word is declared. -/
def oneWord (word : TokenDecl) : Grammar where
  tokens := ⟨[(TokenDecl.named "End").playing .endOfStream,
    (TokenDecl.named "Error").playing .error, word], ⟨some 0, some 1, none, none, none⟩⟩
  kinds := ⟨["text"]⟩
  start := 0
  endOfStream := 0
  ranks := ⟨[(0, 0)], [(⟨0, 0⟩, [3])]⟩
  rules := [⟨3, ⟨0, 0⟩, .declared "text" 0, [.terminal [2]], [true], [2], [0]⟩]
  substitutes := []
  initial := [3]

/-- A word that refines a token which does not exist. -/
def orphan : TokenDecl := (TokenDecl.named "word").childOf 7 .substitutable

/-- A word without characters. -/
def blankWord : TokenDecl := (TokenDecl.named "word").withLiterals [""]

/-- Such words cannot be declared, but blobs can spell them. A blob with one of
them is read, and then no language can be made of it. -/
theorem ofBlob_oneWord :
    TokenTable.ofDecls (oneWord orphan).tokens.tokens = .error (.unknownParent "word" 7) ∧
      Grammar.ofBlob (oneWord orphan).toBlob = .ok (oneWord orphan) ∧
      ofBlob (oneWord orphan).toBlob .default = .error (.fault .outOfRange) ∧
      TokenTable.ofDecls (oneWord blankWord).tokens.tokens = .error (.emptyLiteral "word") ∧
      Grammar.ofBlob (oneWord blankWord).toBlob = .ok (oneWord blankWord) ∧
      ofBlob (oneWord blankWord).toBlob .default = .error (.fault .emptyLiteral) := by
  have horphan : Grammar.ofBlob (oneWord orphan).toBlob = .ok (oneWord orphan) := by decide +kernel
  have hblank : Grammar.ofBlob (oneWord blankWord).toBlob = .ok (oneWord blankWord) := by
    decide +kernel
  refine ⟨rfl, horphan, ?_, rfl, hblank, ?_⟩
  · rw [ofBlob_eq_ofGrammar horphan]
    rfl
  · rw [ofBlob_eq_ofGrammar hblank]
    rfl

end Language
end GrammarKit
