import GrammarKit.Proofs.Blob.Delimited
import GrammarKit.Proofs.Language

/-!
# Grammars that were cut off

The codec of each part of a grammar is delimited (`Codec.Delimited`), and so is the codec
of grammars (`delimited_grammar`). Nothing is asked of the grammar for that: a grammar
with more than a blob has room for is not read back, but neither is what is left of its
blob when the end is missing.

`ofBlob_of_prefix`: wherever a blob is cut, the rest of it does not decode. It never comes
to the check whether the grammar hangs together.
-/
namespace GrammarKit

namespace Codec

theorem delimited_visibility : Delimited visibility := by
  refine delimited_tagged (fun tag r hr => ?_) fun v r hr b rest left h => ?_
  · split at hr
    · cases hr
      exact Reader.incremental_pure _
    · cases hr
      exact Reader.incremental_pure _
    · cases hr
  · cases v <;> cases hr <;> cases h <;> rfl

theorem delimited_role : Delimited role := by
  refine delimited_tagged (fun tag r hr => ?_) fun role r hr b rest left h => ?_
  · split at hr
    iterate 5
      · cases hr
        exact Reader.incremental_pure _
    · cases hr
  · cases role <;> cases hr <;> cases h <;> rfl

theorem delimited_recognizer : Delimited recognizer := by
  have hliterals := delimited_string.list
  have hpattern := delimited_string.pair delimited_string.option
  refine delimited_tagged (fun tag r hr => ?_) fun recognizer r hr b rest left h => ?_
  · split at hr
    · cases hr
      exact hliterals.incremental.map _
    · cases hr
      exact hpattern.incremental.map _
    · cases hr
      exact Reader.incremental_pure _
    · cases hr
  · cases recognizer with
    | literals options =>
      cases hr
      obtain ⟨options', hfields, -⟩ := Reader.map_ok_iff.mp h
      exact hliterals.stops _ _ _ _ hfields
    | pattern expr start =>
      cases hr
      obtain ⟨p, hfields, -⟩ := Reader.map_ok_iff.mp h
      exact hpattern.stops (expr, start) _ _ _ hfields
    | ownName =>
      cases hr
      cases h
      rfl

theorem delimited_parentLink : Delimited parentLink :=
  (delimited_word.pair delimited_visibility).via _ _

theorem delimited_tokenDecl : Delimited tokenDecl :=
  (delimited_string.pair (delimited_recognizer.option.pair (delimited_bool.pair
    (delimited_parentLink.option.pair delimited_role.option)))).via _ _

theorem delimited_roles : Delimited roles := by
  have hid := delimited_word.option
  exact (hid.pair (hid.pair (hid.pair (hid.pair hid)))).via _ _

theorem delimited_tokenTable : Delimited tokenTable :=
  (delimited_tokenDecl.list.pair delimited_roles).via _ _

theorem delimited_kindTable : Delimited kindTable := delimited_string.list.via _ _

theorem delimited_rankedType : Delimited rankedType := (delimited_word.pair delimited_word).via _ _

theorem delimited_assoc {κ α : Type} [DecidableEq κ] {key : Codec κ} {value : Codec α}
    (hkey : key.Delimited) (hvalue : value.Delimited) : (assoc key value).Delimited :=
  (hkey.pair hvalue).list.via _ _

theorem delimited_rankIndex : Delimited rankIndex :=
  ((delimited_assoc delimited_word delimited_word).pair
    (delimited_assoc delimited_rankedType delimited_word.list)).via _ _

theorem delimited_origin : Delimited origin := by
  have hdeclared := delimited_string.pair delimited_word
  refine delimited_tagged (fun tag r hr => ?_) fun origin r hr b rest left h => ?_
  · split at hr
    · cases hr
      exact hdeclared.incremental.map _
    iterate 3
      · cases hr
        exact Reader.incremental_pure _
    · cases hr
  · cases origin with
    | declared action decl =>
      cases hr
      obtain ⟨p, hfields, -⟩ := Reader.map_ok_iff.mp h
      exact hdeclared.stops (action, decl) _ _ _ hfields
    | listLast =>
      cases hr
      cases h
      rfl
    | listMore =>
      cases hr
      cases h
      rfl
    | listLeading =>
      cases hr
      cases h
      rfl

theorem delimited_step : Delimited step := (delimited_word.list.pair delimited_bool).via _ _

theorem delimited_tokenSet : Delimited tokenSet := delimited_word.list.via _ _

theorem delimited_rule : Delimited rule :=
  (delimited_word.pair (delimited_rankedType.pair (delimited_origin.pair
    (delimited_step.list.pair (delimited_bool.list.pair
      (delimited_tokenSet.pair delimited_tokenSet)))))).via _ _

theorem delimited_grammar : Delimited grammar :=
  (delimited_tokenTable.pair (delimited_kindTable.pair (delimited_word.pair
    (delimited_word.pair (delimited_rankIndex.pair (delimited_rule.list.pair
      ((delimited_assoc delimited_word delimited_word.list).pair delimited_word.list))))))).via _ _

end Codec

namespace Grammar

/-- What does not decode is no grammar, and nothing else is said about it. -/
theorem ofBlob_of_read_error {bytes : List UInt8} {e : BlobError}
    (h : Codec.grammar.read bytes = .error e) : ofBlob bytes = .error (.decode e) := by
  rw [ofBlob, h]

/-- **Truncated blobs.** Whatever the grammar is and wherever its blob is cut, what is left
fails to decode: it is no other grammar, and none that does not hang together. If the grammar
was compiled or read from a blob, decoding fails because the bytes end too soon. -/
theorem ofBlob_of_prefix (g : Grammar) {front : List UInt8} (h : front <+: g.toBlob)
    (hne : front ≠ g.toBlob) :
    ∃ e, ofBlob front = .error (.decode e) ∧ (g.Obtained → e = .unexpectedEnd) := by
  obtain ⟨e, he⟩ := Codec.delimited_grammar.exists_error_of_prefix h hne
  refine ⟨e, ofBlob_of_read_error he, fun hg => ?_⟩
  have hend := Codec.delimited_grammar.read_prefix Codec.faithful_grammar hg.storable.1 h hne
  rw [he] at hend
  cases hend
  rfl

end Grammar

/-- The blob of the outlines, cut within the name of their last token. -/
theorem outline_cut : (outlineGrammar.toBlob.take 58 <+: outlineGrammar.toBlob ∧
      outlineGrammar.toBlob.take 58 ≠ outlineGrammar.toBlob) ∧
    ∃ e, Grammar.ofBlob (outlineGrammar.toBlob.take 58) = .error (.decode e) ∧
      e = .unexpectedEnd := by
  have hshort := List.take_prefix 58 outlineGrammar.toBlob
  have hne : outlineGrammar.toBlob.take 58 ≠ outlineGrammar.toBlob := by decide +kernel
  obtain ⟨e, he, hend⟩ := Grammar.ofBlob_of_prefix outlineGrammar hshort hne
  exact ⟨⟨hshort, hne⟩, e, he, hend obtained_outlineGrammar⟩

end GrammarKit
