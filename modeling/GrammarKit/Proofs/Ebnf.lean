import GrammarKit.Ebnf
import GrammarKit.Proofs.Assoc
import GrammarKit.Proofs.Declaration
import GrammarKit.Proofs.Fault
import GrammarKit.Proofs.Token.Table
import Mathlib

/-!
# What a grammar in EBNF lists

Every token that is found by a pattern or by several literals should have a block of its
own (`ownBlocks`), and every kind that rules produce one with a line for each of its
rules (`kindBlocks`). Blocks are kept by their headings, though, and two of them can have
one heading: names of tokens that differ in case only, and a kind named like a token.

* `render_blocks`: the text is that of the blocks merged by their headings, where a token
  replaces an earlier one and a kind adds to a token. It has all blocks, one behind the
  other, exactly if no two tokens with a block have one name in lower case and no kind
  is named like such a token.
-/
namespace GrammarKit.Ebnf

open Text.Casing (lowerText)

/-! ## The blocks that are asked for -/

/-- Whether a token has a block: it is found by a pattern or by several literals. -/
def hasBlock (d : TokenDecl) : Bool :=
  match d.recognizer with
  | some (.pattern _ _) => true
  | some (.literals options) => 1 < options.length
  | some .ownName | none => false

/-- The alternatives of a token. -/
def ownLines (d : TokenDecl) : List String :=
  match d.recognizer with
  | some (.pattern pattern _) => ["/" ++ pattern ++ "/"]
  | some (.literals options) => options.map quoted
  | some .ownName | none => []

/-- The blocks of the tokens, in their order. -/
def ownBlocks (decls : List TokenDecl) : Assoc String (List String) :=
  (decls.filter hasBlock).map fun d => (quoted (lowerText d.name), ownLines d)

/-- The name of a kind as a heading. -/
def kindHeading (kinds : KindTable) (k : Kind) : String := (kinds.name? k).getD ""

/-- The blocks of the kinds in the order of their first rules, with a line for each rule
of a kind. -/
def kindBlocks (d : Declaration) (line : RuleDecl → String) : Assoc String (List String) :=
  (d.rules.map (·.produces)).eraseDups.map fun k =>
    (kindHeading d.kinds k, (d.rules.filter (·.produces = k)).map line)

/-- An alternative in its line. -/
def lineText (alternative : String) : String := Text.trimEnd ("  | " ++ alternative) ++ "\n"

/-- Blocks as text. -/
def written (bs : Assoc String (List String)) : String :=
  String.join (bs.map fun b => b.1 ++ " ::=\n" ++ String.join (b.2.map lineText) ++ "\n")

theorem renderBlock_eq (heading : String) (alternatives : List String) :
    renderBlock heading alternatives =
      heading ++ " ::=\n" ++ String.join (alternatives.map lineText) ++ "\n" := by
  have hfold : ∀ text : String,
      alternatives.foldl (fun text a => text ++ Text.trimEnd s!"  | {a}" ++ "\n") text =
        text ++ String.join (alternatives.map lineText) := by
    induction alternatives with
    | nil => intro text; exact (String.append_empty).symm
    | cons a alternatives ih =>
      intro text
      rw [List.foldl_cons, ih, List.map_cons, String.join_cons, ← String.append_assoc, lineText,
        ← String.append_assoc]
      rfl
  rw [renderBlock, hfold]
  rfl

/-! ## The blocks that are kept -/

theorem tokenBlocks_eq {decls : List TokenDecl}
    (h : ∀ d ∈ decls, TokenTable.declError?.literalError? d = none) :
    tokenBlocks decls = Assoc.ofEntries (ownBlocks decls) := by
  rw [tokenBlocks, ownBlocks, Assoc.ofEntries, List.foldl_map, List.foldl_filter]
  refine List.foldl_ext _ _ _ fun blocks d hd => ?_
  have hliterals := h d hd
  unfold tokenAlternatives? hasBlock tokenName ownLines
  unfold TokenTable.declError?.literalError? at hliterals
  cases hrec : d.recognizer with
  | none => rfl
  | some recognizer =>
    cases recognizer with
    | pattern pattern start => rfl
    | ownName => rfl
    | literals options =>
      cases options with
      | nil =>
        rw [hrec] at hliterals
        cases hliterals
      | cons literal others => cases others <;> rfl

section Rules

variable {kinds : KindTable} {names : List String} {r : RuleDecl}

theorem succeeds_param_iff {s : Shape Kind} : Succeeds (param kinds names s) ↔
    ∀ k cap, s.kind? = some (k, cap) → (kinds.name? k).isSome := by
  have hname : ∀ (k : Kind) (f : String → String), Succeeds (do
      let name ← require Fault.outOfRange (kinds.name? k)
      (.ok (f name) : Except Fault String)) ↔ (kinds.name? k).isSome :=
    fun k f => (succeeds_bind_of_forall fun name => succeeds_ok _).trans succeeds_require_iff
  cases s with
  | terminal tokens optional => simp [param, Shape.kind?]
  | nonTerminal kind maxRank optional =>
    refine (hname kind _).trans ?_
    simp [Shape.kind?]
  | list element maxRank min delimiter =>
    refine (hname element _).trans ?_
    simp [Shape.kind?]

/-- A rule has a line if the kinds it names have names. -/
theorem succeeds_ruleLine_iff : Succeeds (ruleLine kinds names r) ↔
    (∀ p ∈ r.params, ∀ k cap, p.shape.kind? = some (k, cap) → (kinds.name? k).isSome) ∧
      (kinds.name? r.produces).isSome := by
  simp only [← @succeeds_param_iff kinds names, ← succeeds_mapM_iff]
  rw [ruleLine, succeeds_bind_iff]
  constructor
  · intro h
    obtain ⟨parts, hparts, hrest⟩ := h
    exact ⟨⟨parts, hparts⟩,
      succeeds_require_iff.mp ((succeeds_bind_of_forall fun _ => succeeds_ok _).mp hrest)⟩
  · intro h
    obtain ⟨⟨parts, hparts⟩, hheading⟩ := h
    exact ⟨parts, hparts,
      (succeeds_bind_of_forall fun _ => succeeds_ok _).mpr (succeeds_require_iff.mpr hheading)⟩

/-- The heading of a rule is the name of the kind it produces. -/
theorem heading_ruleLine {line : String × String} (h : ruleLine kinds names r = .ok line) :
    kinds.name? r.produces = some line.1 := by
  obtain ⟨parts, -, h⟩ := bind_eq_ok_iff.mp h
  obtain ⟨heading, hheading, h⟩ := bind_eq_ok_iff.mp h
  cases h
  exact require_eq_ok_iff.mp hheading

end Rules

/-! ## The text -/

section Render

variable {d : Declaration} {t : TokenTable} {line : RuleDecl → String}

/-- The rules with their headings, as they are collected. -/
def headed (d : Declaration) (line : RuleDecl → String) : List (String × String) :=
  d.rules.map fun r => (kindHeading d.kinds r.produces, line r)

/-- The kind of a rule has a name. -/
theorem name?_produces (hd : d.Built) {r : RuleDecl} (hr : r ∈ d.rules) :
    d.kinds.name? r.produces = some (kindHeading d.kinds r.produces) := by
  rw [kindHeading, KindTable.name?, List.getElem?_eq_getElem (hd.produces_lt r hr)]
  rfl

/-- Collecting the lines of all rules makes the blocks of the kinds. -/
theorem collect_headed (hd : d.Built) : Assoc.collect [] (headed d line) = kindBlocks d line := by
  have hinj : ∀ r ∈ d.rules, ∀ r' ∈ d.rules, kindHeading d.kinds r.produces =
      kindHeading d.kinds r'.produces → r.produces = r'.produces := by
    intro r hr r' hr' heq
    refine KindTable.name?_inj hd.nodup_names (name?_produces hd hr) ?_
    rw [heq]
    exact name?_produces hd hr'
  have hkeys : (headed d line).map (·.1) =
      (d.rules.map (·.produces)).map (kindHeading d.kinds) := by
    rw [headed, List.map_map, List.map_map]
    rfl
  rw [Assoc.eq_map_get? (Assoc.proper_collect (headed d line) (m := []) List.nodup_nil) [],
    Assoc.keys_collect _ (m := []) List.nodup_nil, List.map_nil, List.nil_append, hkeys,
    eraseDups_map (by simpa using hinj), List.map_map, kindBlocks]
  refine List.map_congr_left fun k hk => ?_
  obtain ⟨r, hr, rfl⟩ := List.mem_map.mp (List.mem_eraseDups.mp hk)
  rw [Function.comp_apply, Assoc.get?_collect, headed, List.filter_map, List.map_map]
  refine congrArg (fun rules => (_, rules.map line)) (List.filter_congr fun r' hr' => ?_)
  exact decide_eq_decide.mpr ⟨hinj r' hr' r hr, congrArg (kindHeading d.kinds)⟩

/-- The text is that of the merged blocks. -/
theorem render_eq (ht : ∀ token ∈ t.tokens, TokenTable.declError?.literalError? token = none)
    (hd : d.Built)
    (hline : ∀ r ∈ d.rules, ruleLine d.kinds (t.tokens.map tokenName) r =
      .ok (kindHeading d.kinds r.produces, line r)) :
    render d t = .ok (written (Assoc.merge (ownBlocks t.tokens) (kindBlocks d line))) := by
  have hblocks : blocks d t =
      .ok (Assoc.merge (ownBlocks t.tokens) (kindBlocks d line)) := by
    rw [blocks, mapM_eq_map hline, ok_bind, tokenBlocks_eq ht, ← collect_headed hd,
      ← Assoc.collect_ofEntries]
    rfl
  rw [render, hblocks, ok_bind, written]
  simp only [renderBlock_eq]

theorem succeeds_render_iff : Succeeds (render d t) ↔
    ∀ r ∈ d.rules, Succeeds (ruleLine d.kinds (t.tokens.map tokenName) r) := by
  rw [render, blocks, succeeds_bind_of_forall fun _ => succeeds_ok _,
    succeeds_bind_of_forall fun _ => succeeds_ok _, succeeds_mapM_iff]

/-- Every rule has a line if the grammar has a text. -/
theorem exists_line (h : Succeeds (render d t)) : ∃ line : RuleDecl → String,
    ∀ r ∈ d.rules, ruleLine d.kinds (t.tokens.map tokenName) r =
      .ok (kindHeading d.kinds r.produces, line r) := by
  refine ⟨fun r => ((ruleLine d.kinds (t.tokens.map tokenName) r).toOption.map (·.2)).getD "",
    fun r hr => ?_⟩
  obtain ⟨⟨heading, line⟩, hline⟩ := succeeds_render_iff.mp h r hr
  rw [kindHeading, heading_ruleLine hline, hline]
  simp [hline, Except.toOption]

end Render

/-! ## What merging loses -/

/-- The length of blocks as text. -/
theorem length_written (bs : Assoc String (List String)) : (written bs).length =
    Assoc.weigh (fun heading => heading.length + 6) (fun l => (lineText l).length) bs := by
  rw [written, String.length_join, List.map_map, Assoc.weigh]
  refine congrArg List.sum (List.map_congr_left fun b _ => ?_)
  have hopen : " ::=\n".length = 5 := rfl
  have hclose : "\n".length = 1 := rfl
  simp only [Function.comp_def, String.length_append, String.length_join, List.map_map, hopen,
    hclose]
  omega

/-- **Merging blocks shows.** The merged blocks make the text of all of them exactly if no
heading repeats. -/
theorem written_merge_eq_iff {own : Assoc String (List String)} {lines : List (String × String)} :
    written (Assoc.merge own (Assoc.collect [] lines)) = written (own ++ Assoc.collect [] lines) ↔
      Assoc.Proper (own ++ Assoc.collect [] lines) := by
  constructor
  · intro h
    by_contra hrepeats
    have hlt := Assoc.weigh_merge_lt (fun heading : String => heading.length + 6)
      (fun l => (lineText l).length) (fun _ => Nat.succ_pos _) hrepeats
    rw [← length_written, ← length_written, h] at hlt
    exact Nat.lt_irrefl _ hlt
  · intro h
    rw [Assoc.merge_eq_append h]

theorem quoted_injective : Function.Injective quoted := by
  intro s s' h
  have hquotes : ∀ s, quoted s = "'" ++ s ++ "'" := fun _ => rfl
  rw [hquotes, hquotes, String.append_left_inj, String.append_right_inj] at h
  exact h

/-- Which headings repeat. -/
theorem proper_blocks_iff {d : Declaration} (hd : d.Built) (decls : List TokenDecl)
    (line : RuleDecl → String) : Assoc.Proper (ownBlocks decls ++ kindBlocks d line) ↔
      ((decls.filter hasBlock).map fun token => lowerText token.name).Nodup ∧
        ∀ r ∈ d.rules, ∀ token ∈ decls, hasBlock token →
          d.kinds.name? r.produces ≠ some (quoted (lowerText token.name)) := by
  have hown : (ownBlocks decls).map (·.1) =
      ((decls.filter hasBlock).map fun token => lowerText token.name).map quoted := by
    rw [ownBlocks, List.map_map, List.map_map]
    rfl
  have hkinds : ((kindBlocks d line).map (·.1)).Nodup := by
    rw [← collect_headed hd]
    exact Assoc.proper_collect _ List.nodup_nil
  have hmem : ∀ heading, heading ∈ (kindBlocks d line).map (·.1) ↔
      ∃ r ∈ d.rules, d.kinds.name? r.produces = some heading := by
    intro heading
    simp only [kindBlocks, List.map_map, List.mem_map, List.mem_eraseDups, exists_exists_and_eq_and,
      Function.comp_apply]
    refine exists_congr fun r => and_congr_right fun hr => ?_
    rw [name?_produces hd hr, Option.some.injEq]
  rw [Assoc.Proper, List.map_append, List.nodup_append, hown,
    List.nodup_map_iff quoted_injective]
  refine and_congr_right fun _ => (and_iff_right hkinds).trans ?_
  simp only [hmem, List.mem_map, List.mem_filter]
  constructor
  · intro h r hr token htoken hblock hname
    exact h _ ⟨_, ⟨token, ⟨htoken, hblock⟩, rfl⟩, rfl⟩ _ ⟨r, hr, hname⟩ rfl
  · rintro h _ ⟨_, ⟨token, ⟨htoken, hblock⟩, rfl⟩, rfl⟩ heading ⟨r, hr, hname⟩ rfl
    exact h r hr token htoken hblock hname

/-! ## Untrimmed lines -/

theorem trimEnd_append {c : Char} (hc : Text.isBlank c = false) (s : String) :
    Text.trimEnd (s ++ String.singleton c) = s ++ String.singleton c := by
  rw [Text.trimEnd, String.toList_append, String.toList_singleton, List.reverse_append,
    List.reverse_singleton, List.singleton_append, List.dropWhile_cons_of_neg (by simp [hc]),
    List.reverse_cons, List.reverse_reverse, ← String.toList_singleton, ← String.toList_append,
    String.ofList_toList]

theorem lineText_append {c : Char} (hc : Text.isBlank c = false) (s : String) :
    lineText (s ++ String.singleton c) = "  | " ++ (s ++ String.singleton c) ++ "\n" := by
  rw [lineText, ← String.append_assoc, trimEnd_append hc]

/-- The line of an alternative of a token is not shortened: it ends in a quote or a slash. -/
theorem lineText_of_mem_ownLines {token : TokenDecl} :
    ∀ l ∈ ownLines token, lineText l = "  | " ++ l ++ "\n" := by
  have hquote : Text.isBlank '\'' = false := by cbv
  have hslash : Text.isBlank '/' = false := by cbv
  intro l hl
  unfold ownLines at hl
  split at hl
  · rw [List.mem_singleton.mp hl]
    exact lineText_append hslash _
  · obtain ⟨literal, -, rfl⟩ := List.mem_map.mp hl
    exact lineText_append hquote _
  · cases hl
  · cases hl

/-! ## The result -/

/-- **What a grammar in EBNF lists.** A grammar has a text if all kinds that its rules
name have names. The text is that of the merged blocks, and it has the blocks of all
tokens and kinds exactly if no two tokens with a block have one name in lower case and no
kind with a rule is named like such a token. -/
theorem render_blocks {decls : List TokenDecl} {t : TokenTable} {d : Declaration}
    (ht : TokenTable.ofDecls decls = .ok t) (hd : d.Built) :
    (Succeeds (render d t) ↔
      ∀ r ∈ d.rules, ∀ p ∈ r.params, ∀ k cap, p.shape.kind? = some (k, cap) →
        (d.kinds.name? k).isSome) ∧
    ∀ text, render d t = .ok text → ∃ line : RuleDecl → String,
      (∀ r ∈ d.rules, ruleLine d.kinds (decls.map tokenName) r =
        .ok (kindHeading d.kinds r.produces, line r)) ∧
      (∀ token ∈ decls, ∀ l ∈ ownLines token, lineText l = "  | " ++ l ++ "\n") ∧
      text = written (Assoc.merge (ownBlocks decls) (kindBlocks d line)) ∧
      (text = written (ownBlocks decls ++ kindBlocks d line) ↔
        ((decls.filter hasBlock).map fun token => lowerText token.name).Nodup ∧
          ∀ r ∈ d.rules, ∀ token ∈ decls, hasBlock token →
            d.kinds.name? r.produces ≠ some (quoted (lowerText token.name))) := by
  have htokens := TokenTable.tokens_ofDecls ht
  constructor
  · rw [succeeds_render_iff]
    refine forall₂_congr fun r hr => succeeds_ruleLine_iff.trans (and_iff_left ?_)
    rw [name?_produces hd hr]
    rfl
  · intro text htext
    obtain ⟨line, hline⟩ := exists_line ⟨text, htext⟩
    have hliterals : ∀ token ∈ t.tokens, TokenTable.declError?.literalError? token = none := by
      rw [htokens]
      exact fun token htoken => TokenTable.literalError?_eq_none
        (TokenTable.declError?_eq_none_of_ofDecls ht token htoken)
    have heq := Except.ok.inj (htext.symm.trans (render_eq hliterals hd hline))
    rw [htokens] at hline heq
    refine ⟨line, hline, fun token _ => lineText_of_mem_ownLines, heq, ?_⟩
    rw [← proper_blocks_iff hd decls line, ← collect_headed hd, ← written_merge_eq_iff, heq,
      collect_headed hd]

/-- A token for numbers. -/
def numbers : List TokenDecl :=
  [(TokenDecl.named "End").playing .endOfStream, (TokenDecl.named "Num").withPattern "[0-9]+"]

/-- And one for words, whose name differs in case only. -/
def twins : List TokenDecl := numbers ++ [(TokenDecl.named "num").withPattern "[a-z]+"]

/-- A kind of nodes that are numbers. -/
def numerals (kind : String) : Declaration :=
  (Declaration.empty.withRule ⟨"Numeral", kind, 0, [⟨"n", .terminal [1] false⟩]⟩).2

/-- The text for numerals has the block of the token and that of the kind. -/
theorem render_of_numbers : ∃ t, TokenTable.ofDecls numbers = .ok t ∧ (numerals "Expr").Built ∧
    ∃ text line, render (numerals "Expr") t = .ok text ∧
      text = written (ownBlocks numbers ++ kindBlocks (numerals "Expr") line) := by
  have hbuilt : (numerals "Expr").Built := .withRule _ .empty
  have hblocks := render_blocks (show TokenTable.ofDecls numbers = .ok _ from rfl) hbuilt
  have hkinds : ∀ r ∈ (numerals "Expr").rules, ∀ p ∈ r.params, ∀ k cap,
      p.shape.kind? = some (k, cap) → ((numerals "Expr").kinds.name? k).isSome := by
    simp [numerals, Declaration.empty, Declaration.withRule, Declaration.number,
      KindTable.numberParams, KindTable.numberShape, Shape.kind?]
  have hnames : (numbers.filter hasBlock).map (fun token => lowerText token.name) = ["num"] := by
    cbv
  obtain ⟨text, htext⟩ := hblocks.1.mpr hkinds
  obtain ⟨line, -, -, -, hiff⟩ := hblocks.2 text htext
  refine ⟨_, rfl, hbuilt, text, line, htext, hiff.mpr ⟨?_, by decide +kernel⟩⟩
  rw [hnames]
  exact List.nodup_singleton "num"

/-- Blocks are lost. The second of two tokens with one name in lower case replaces the block
of the first, and the rules of a kind that is named like a token are added to its block. -/
theorem render_of_twins :
    (∃ t, TokenTable.ofDecls twins = .ok t ∧
      render .empty t = .ok "'num' ::=\n  | /[a-z]+/\n\n" ∧
      ∀ line, "'num' ::=\n  | /[a-z]+/\n\n" ≠ written (ownBlocks twins ++ kindBlocks .empty line)) ∧
    ∃ t, TokenTable.ofDecls numbers = .ok t ∧ (numerals "'num'").Built ∧
      render (numerals "'num'") t = .ok "'num' ::=\n  | /[0-9]+/\n  | 'num'\n\n" ∧
      "'num' ::=\n  | /[0-9]+/\n  | 'num'\n\n" ≠
        written (ownBlocks numbers ++ kindBlocks (numerals "'num'") fun _ => "'num'") := by
  refine ⟨⟨_, rfl, by cbv, fun line => ?_⟩, _, rfl, .withRule _ .empty, by cbv, ?_⟩
  · have hall : written (ownBlocks twins ++ kindBlocks .empty line) =
        "'num' ::=\n  | /[0-9]+/\n\n'num' ::=\n  | /[a-z]+/\n\n" := by cbv
    rw [hall]
    decide
  · have hall : written (ownBlocks numbers ++ kindBlocks (numerals "'num'") fun _ => "'num'") =
        "'num' ::=\n  | /[0-9]+/\n\n'num' ::=\n  | 'num'\n\n" := by cbv
    rw [hall]
    decide

end GrammarKit.Ebnf
