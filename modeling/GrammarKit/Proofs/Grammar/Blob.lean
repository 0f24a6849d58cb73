import GrammarKit.Grammar.Blob
import GrammarKit.Proofs.Blob.Codec
import GrammarKit.Proofs.Rank
import GrammarKit.Proofs.TokenSet

/-!
# Grammars survive as blobs

A value is storable if a blob has room for its numbers and lengths, if its maps
have every key once, and if its sets are ascending. The codec of each part of a
grammar is faithful to the storable ones, and so is the codec of grammars
(`faithful_grammar`).

`ofBlob_toBlob`: a storable grammar that hangs together is the grammar of its
blob. Every grammar that a blob spells is of this kind (`storable_of_ofBlob`).
-/
namespace GrammarKit

open Codec (Word Length Short Each Faithful)

/-! ## What can be stored -/

/-- A recognizer with short strings. -/
def Recognizer.Storable : Recognizer → Prop
  | .literals options => Each Short options
  | .pattern expr start => Short expr ∧ ∀ chars ∈ start, Short chars
  | .ownName => True

instance : DecidablePred Recognizer.Storable
  | .literals options => inferInstanceAs (Decidable (Each Short options))
  | .pattern expr start => inferInstanceAs (Decidable (Short expr ∧ ∀ chars ∈ start, Short chars))
  | .ownName => inferInstanceAs (Decidable True)

structure TokenDecl.Storable (d : TokenDecl) : Prop where
  name : Short d.name
  recognizer : ∀ r ∈ d.recognizer, r.Storable
  parent : ∀ link ∈ d.parent, Word link.id

instance (d : TokenDecl) : Decidable d.Storable :=
  decidable_of_iff (Short d.name ∧ (∀ r ∈ d.recognizer, r.Storable) ∧ ∀ link ∈ d.parent, Word link.id)
    ⟨fun h => ⟨h.1, h.2.1, h.2.2⟩, fun h => ⟨h.name, h.recognizer, h.parent⟩⟩

/-- The players of all roles have storable ids. -/
def Roles.Storable (r : Roles) : Prop := ∀ role, ∀ id ∈ r.get? role, Word id

structure TokenTable.Storable (t : TokenTable) : Prop where
  tokens : Each TokenDecl.Storable t.tokens
  roles : t.roles.Storable

/-- A map with every key once, and what holds of its keys and values. -/
structure Assoc.Storable {κ α : Type} [DecidableEq κ] (P : κ → Prop) (Q : α → Prop)
    (m : Assoc κ α) : Prop where
  proper : m.Proper
  entries : Each (fun e => P e.1 ∧ Q e.2) m

structure RankedType.Storable (r : RankedType) : Prop where
  kind : Word r.kind
  rank : Word r.rank

instance (r : RankedType) : Decidable r.Storable :=
  decidable_of_iff (Word r.kind ∧ Word r.rank) ⟨fun h => ⟨h.1, h.2⟩, fun h => ⟨h.kind, h.rank⟩⟩

structure RankIndex.Storable (x : RankIndex) : Prop where
  maxRanks : Assoc.Storable Word Word x.maxRanks
  entries : Assoc.Storable RankedType.Storable (Each Word) x.entries

/-- A declared rule with a short action and a place that fits into a word. -/
def Origin.Storable : Origin → Prop
  | .declared action decl => Short action ∧ Word decl
  | _ => True

structure TokenSet.Storable (s : TokenSet) : Prop where
  ascending : Ascending s
  tokens : Each Word s

structure Rule.Storable (r : Rule) : Prop where
  id : Word r.id
  ranked : r.ranked.Storable
  origin : r.origin.Storable
  steps : Each (fun s => Each Word s.sources) r.steps
  args : Each (fun _ => True) r.args
  starting : TokenSet.Storable r.starting
  ending : TokenSet.Storable r.ending

structure Grammar.Storable (g : Grammar) : Prop where
  tokens : g.tokens.Storable
  kinds : Each Short g.kinds.names
  start : Word g.start
  endOfStream : Word g.endOfStream
  ranks : g.ranks.Storable
  rules : Each Rule.Storable g.rules
  substitutes : Assoc.Storable Word (Each Word) g.substitutes
  initial : Each Word g.initial

/-! ## Codecs of the parts -/

namespace Codec

theorem faithful_visibility : Faithful visibility fun _ => True := by
  refine faithful_tagged (fun v _ => ?_) fun _ _ _ _ _ _ _ => trivial
  cases v with
  | substitutable => exact ⟨by decide, _, rfl, fun _ => rfl⟩
  | hidden => exact ⟨by decide, _, rfl, fun _ => rfl⟩

theorem faithful_role : Faithful role fun _ => True := by
  refine faithful_tagged (fun r _ => ?_) fun _ _ _ _ _ _ _ => trivial
  cases r with
  | endOfStream => exact ⟨by decide, _, rfl, fun _ => rfl⟩
  | error => exact ⟨by decide, _, rfl, fun _ => rfl⟩
  | indent => exact ⟨by decide, _, rfl, fun _ => rfl⟩
  | dedent => exact ⟨by decide, _, rfl, fun _ => rfl⟩
  | endOfLine => exact ⟨by decide, _, rfl, fun _ => rfl⟩

theorem faithful_recognizer : Faithful recognizer Recognizer.Storable := by
  have hliterals := faithful_string.list
  have hpattern := faithful_string.pair faithful_string.option
  refine faithful_tagged ?_ ?_
  · intro r hr
    cases r with
    | literals options =>
      refine ⟨(by decide : Word 0), _, rfl, fun rest => ?_⟩
      exact Reader.map_of_ok (hliterals.read_write options rest hr)
    | pattern expr start =>
      refine ⟨(by decide : Word 1), _, rfl, fun rest => ?_⟩
      exact Reader.map_of_ok (hpattern.read_write (expr, start) rest hr)
    | ownName => exact ⟨by decide, _, rfl, fun _ => rfl⟩
  · intro tag reader hreader bs r rest h
    split at hreader
    · cases hreader
      obtain ⟨options, hfields, rfl⟩ := Reader.map_ok_iff.mp h
      exact hliterals.of_read _ _ _ hfields
    · cases hreader
      obtain ⟨p, hfields, rfl⟩ := Reader.map_ok_iff.mp h
      exact hpattern.of_read _ _ _ hfields
    · cases hreader
      cases h
      trivial
    · cases hreader

theorem faithful_parentLink : Faithful parentLink fun link => Word link.id :=
  (faithful_word.pair faithful_visibility).via (fun _ h => ⟨⟨h, trivial⟩, rfl⟩) fun _ h => h.1

theorem faithful_tokenDecl : Faithful tokenDecl TokenDecl.Storable := by
  refine (faithful_string.pair (faithful_recognizer.option.pair (faithful_bool.pair
    (faithful_parentLink.option.pair faithful_role.option)))).via ?_ ?_
  · intro d hd
    exact ⟨⟨hd.name, hd.recognizer, trivial, hd.parent, fun _ _ => trivial⟩, rfl⟩
  · intro fields h
    obtain ⟨hname, hrecognizer, -, hparent, -⟩ := h
    exact ⟨hname, hrecognizer, hparent⟩

theorem faithful_roles : Faithful roles Roles.Storable := by
  have hid := faithful_word.option
  refine (hid.pair (hid.pair (hid.pair (hid.pair hid)))).via ?_ ?_
  · intro r hr
    exact ⟨⟨hr .endOfStream, hr .error, hr .indent, hr .dedent, hr .endOfLine⟩, rfl⟩
  · intro fields h
    obtain ⟨hend, herror, hindent, hdedent, hline⟩ := h
    intro role
    cases role with
    | endOfStream => exact hend
    | error => exact herror
    | indent => exact hindent
    | dedent => exact hdedent
    | endOfLine => exact hline

theorem faithful_tokenTable : Faithful tokenTable TokenTable.Storable :=
  (faithful_tokenDecl.list.pair faithful_roles).via (fun _ h => ⟨⟨h.tokens, h.roles⟩, rfl⟩)
    fun _ h => ⟨h.1, h.2⟩

theorem faithful_kindTable : Faithful kindTable fun t => Each Short t.names :=
  faithful_string.list.via (fun _ h => ⟨h, rfl⟩) fun _ h => h

theorem faithful_rankedType : Faithful rankedType RankedType.Storable :=
  (faithful_word.pair faithful_word).via (fun _ h => ⟨⟨h.kind, h.rank⟩, rfl⟩)
    fun _ h => ⟨h.1, h.2⟩

theorem faithful_assoc {κ α : Type} [DecidableEq κ] {key : Codec κ} {value : Codec α}
    {P : κ → Prop} {Q : α → Prop} (hkey : key.Faithful P) (hvalue : value.Faithful Q) :
    (assoc key value).Faithful (Assoc.Storable P Q) := by
  refine (hkey.pair hvalue).list.via ?_ ?_
  · intro m hm
    exact ⟨hm.entries, Assoc.ofEntries_of_proper hm.proper⟩
  · intro entries h
    obtain ⟨hproper, hlen, hall⟩ := Assoc.ofEntries_spec h.all
    exact ⟨hproper, Nat.lt_of_le_of_lt hlen h.size, hall⟩

theorem faithful_rankIndex : Faithful rankIndex RankIndex.Storable :=
  ((faithful_assoc faithful_word faithful_word).pair
    (faithful_assoc faithful_rankedType faithful_word.list)).via
    (fun _ h => ⟨⟨h.maxRanks, h.entries⟩, rfl⟩) fun _ h => ⟨h.1, h.2⟩

theorem faithful_origin : Faithful origin Origin.Storable := by
  have hdeclared := faithful_string.pair faithful_word
  refine faithful_tagged ?_ ?_
  · intro o ho
    cases o with
    | declared action decl =>
      refine ⟨(by decide : Word 0), _, rfl, fun rest => ?_⟩
      exact Reader.map_of_ok (hdeclared.read_write (action, decl) rest ho)
    | listLast => exact ⟨by decide, _, rfl, fun _ => rfl⟩
    | listMore => exact ⟨by decide, _, rfl, fun _ => rfl⟩
    | listLeading => exact ⟨by decide, _, rfl, fun _ => rfl⟩
  · intro tag reader hreader bs o rest h
    split at hreader
    · cases hreader
      obtain ⟨p, hfields, rfl⟩ := Reader.map_ok_iff.mp h
      exact hdeclared.of_read _ _ _ hfields
    · cases hreader
      cases h
      trivial
    · cases hreader
      cases h
      trivial
    · cases hreader
      cases h
      trivial
    · cases hreader

theorem faithful_step : Faithful step fun s => Each Word s.sources := by
  refine (faithful_word.list.pair faithful_bool).via ?_ ?_
  · intro s hs
    cases s with
    | terminal tokens => exact ⟨⟨hs, trivial⟩, rfl⟩
    | nonTerminal rules => exact ⟨⟨hs, trivial⟩, rfl⟩
  · intro p h
    obtain ⟨sources, isTerminal⟩ := p
    cases isTerminal with
    | false => exact h.1
    | true => exact h.1

theorem faithful_tokenSet : Faithful tokenSet TokenSet.Storable := by
  refine faithful_word.list.via ?_ ?_
  · intro s hs
    exact ⟨hs.tokens, TokenSet.ofList_of_ascending hs.ascending⟩
  · intro ts h
    have hlen := TokenSet.length_insertAll_le [] ts
    rw [List.length_nil, Nat.zero_add] at hlen
    exact ⟨TokenSet.ascending_insertAll TokenSet.ascending_nil ts,
      Nat.lt_of_le_of_lt hlen h.size, fun t ht => h.all t (TokenSet.mem_ofList.mp ht)⟩

theorem faithful_rule : Faithful rule Rule.Storable := by
  refine (faithful_word.pair (faithful_rankedType.pair (faithful_origin.pair
    (faithful_step.list.pair (faithful_bool.list.pair
      (faithful_tokenSet.pair faithful_tokenSet)))))).via ?_ ?_
  · intro r hr
    exact ⟨⟨hr.id, hr.ranked, hr.origin, hr.steps, hr.args, hr.starting, hr.ending⟩, rfl⟩
  · intro fields h
    obtain ⟨hid, hranked, horigin, hsteps, hargs, hstarting, hending⟩ := h
    exact ⟨hid, hranked, horigin, hsteps, hargs, hstarting, hending⟩

theorem faithful_grammar : Faithful grammar Grammar.Storable := by
  refine (faithful_tokenTable.pair (faithful_kindTable.pair (faithful_word.pair
    (faithful_word.pair (faithful_rankIndex.pair (faithful_rule.list.pair
      ((faithful_assoc faithful_word faithful_word.list).pair faithful_word.list))))))).via ?_ ?_
  · intro g hg
    exact ⟨⟨hg.tokens, hg.kinds, hg.start, hg.endOfStream, hg.ranks, hg.rules, hg.substitutes,
      hg.initial⟩, rfl⟩
  · intro fields h
    obtain ⟨htokens, hkinds, hstart, hend, hranks, hrules, hsubstitutes, hinitial⟩ := h
    exact ⟨htokens, hkinds, hstart, hend, hranks, hrules, hsubstitutes, hinitial⟩

end Codec

/-! ## Whole grammars -/

namespace Grammar

variable {g : Grammar} {bytes : List UInt8}

/-- The rule has this id, and its steps name entities below the bound only. -/
structure Placed (id entities : Nat) (r : Rule) : Prop where
  id_eq : r.id = id
  sources_lt : ∀ s ∈ r.steps, ∀ e ∈ s.sources, e < entities

theorem ruleError?_cons_eq_none_iff {first entities index : Nat} {r : Rule} {rules : List Rule} :
    ruleError? first entities index (r :: rules) = none ↔
      Placed (first + index) entities r ∧ ruleError? first entities (index + 1) rules = none := by
  have hsources : (r.steps.flatMap Step.sources).find? (· ≥ entities) = none ↔
      ∀ s ∈ r.steps, ∀ e ∈ s.sources, e < entities := by
    simp only [List.find?_eq_none, List.mem_flatMap, decide_eq_true_eq, Nat.not_le]
    exact ⟨fun h s hs e he => h e ⟨s, hs, he⟩, fun h e ⟨s, hs, he⟩ => h s hs e he⟩
  rw [ruleError?]
  split
  · next hid => exact ⟨nofun, fun h => absurd h.1.id_eq hid⟩
  · next hid =>
    split
    · next e he =>
      refine ⟨nofun, fun h => ?_⟩
      rw [hsources.mpr h.1.sources_lt] at he
      cases he
    · next hnone =>
      have hplaced : Placed (first + index) entities r :=
        ⟨Decidable.not_not.mp hid, hsources.mp hnone⟩
      exact ⟨fun h => ⟨hplaced, h⟩, And.right⟩

theorem ruleError?_eq_none_iff {first entities index : Nat} {rules : List Rule} :
    ruleError? first entities index rules = none ↔
      ∀ i r, rules[i]? = some r → Placed (first + (index + i)) entities r := by
  induction rules generalizing index with
  | nil => simp [ruleError?]
  | cons r rules ih =>
    have hnext : ∀ i, index + 1 + i = index + (i + 1) := fun i => Nat.add_right_comm index 1 i
    rw [ruleError?_cons_eq_none_iff, ih]
    simp only [hnext]
    constructor
    · intro h i q hq
      cases i with
      | zero =>
        cases hq
        exact h.1
      | succ i => exact h.2 i q hq
    · intro h
      exact ⟨h 0 r rfl, fun i q hq => h (i + 1) q hq⟩

/-- A grammar hangs together if every rule has the id of its place, steps name
tokens and rules that there are, and the end of the stream is a token. -/
theorem inconsistency?_eq_none_iff : g.inconsistency? = none ↔
    (∀ i r, g.rules[i]? = some r → Placed (g.tokenCount + i) g.entityCount r) ∧
      g.endOfStream < g.tokenCount := by
  have hrules : ruleError? g.tokenCount g.entityCount 0 g.rules = none ↔
      ∀ i r, g.rules[i]? = some r → Placed (g.tokenCount + i) g.entityCount r := by
    rw [ruleError?_eq_none_iff]
    simp only [Nat.zero_add]
  have hend : g.tokens.contains g.endOfStream = true ↔ g.endOfStream < g.tokenCount := by
    simp [TokenTable.contains, tokenCount]
  rw [← hrules, ← hend]
  unfold inconsistency?
  split
  · next e he => simp [he]
  · next hnone =>
    split
    · next hcontains => simp [hnone, hcontains]
    · next hcontains => simp [hcontains]

/-- **Blobs.** A storable grammar that hangs together is the grammar of its blob. -/
theorem ofBlob_toBlob (hg : g.Storable) (hok : g.inconsistency? = none) :
    ofBlob g.toBlob = .ok g := by
  have hread := Codec.faithful_grammar.read_write g [] hg
  rw [List.append_nil] at hread
  rw [ofBlob, toBlob, hread]
  simp only [hok]

/-- A grammar from a blob is storable and hangs together. -/
theorem storable_of_ofBlob (h : ofBlob bytes = .ok g) :
    g.Storable ∧ g.inconsistency? = none := by
  unfold ofBlob at h
  split at h
  · cases h
  · next g' rest hread =>
    split at h
    · cases h
    · next hok =>
      cases h
      exact ⟨Codec.faithful_grammar.of_read _ _ _ hread, hok⟩

end Grammar
end GrammarKit
