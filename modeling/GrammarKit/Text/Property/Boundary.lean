import GrammarKit.Text.Property

/-!
# Classes for boundaries

What Unicode says about the ends of grapheme clusters, words and sentences rests
on three classifications of characters. `clusterClass?`, `wordClass?` and
`sentenceClass?` find a class by its loose name; a character that belongs to no
class has none here. The classes follow from general categories, scripts and
yes-or-no properties, but for some lists.
-/
namespace GrammarKit.Text.Property

/-- Signs before a number, which they span. -/
def numberSigns : CharSet := CharSet.ofTable ["600-605 6dd 70f 890-891 8e2 110bd 110cd"]

/-- The joiner and the non-joiner, of no width. -/
def joiners : CharSet := CharSet.ofTable ["200c-200d"]

/-! ## Grapheme clusters -/

def clusterExtend : CharSet :=
  (graphemeExtend.union (binary "Emoji_Modifier")).diff (CharSet.ofTable ["200d"])

def clusterPrepend : CharSet :=
  numberSigns.union
    (CharSet.ofTable ["d4e 111c2-111c3 113d1 1193f 11941 11a3a 11a84-11a89 11d46 11f02"])

def clusterControl : CharSet :=
  ((categories ["Cc", "Cf", "Zl", "Zp"]).union
    ((categories ["Cn"]).inter (binary "Default_Ignorable_Code_Point"))).diff
    ((joiners.union (CharSet.ofTable ["a d"])).union (clusterExtend.union clusterPrepend))

def clusterSpacing : CharSet :=
  ((categories ["Mc"]).diff (clusterExtend.union (CharSet.ofTable
    ["102b-102c 1038 1062-1064 1067-106d 1083 1087-108c 108f 109a-109c 1a61 1a63-1a64 aa7b aa7d",
     "11720-11721"]))).union (CharSet.ofTable ["e33 eb3"])

/-- Hangul syllables without a final consonant: every twenty-eighth one. -/
def openSyllables : CharSet :=
  CharSet.ofRanges ((List.range 399).map fun i => (0xac00 + 28 * i, 0xac00 + 28 * i))

/-- The characters of a class for grapheme clusters. -/
def clusterClass? (name : List Char) : Option CharSet :=
  match String.ofList name with
  | "cn" | "control" => some clusterControl
  | "cr" => some (CharSet.ofTable ["d"])
  | "ex" | "extend" => some clusterExtend
  | "l" => some (CharSet.ofTable ["1100-115f a960-a97c"])
  | "lf" => some (CharSet.ofTable ["a"])
  | "lv" => some openSyllables
  | "lvt" => some ((CharSet.ofTable ["ac00-d7a3"]).diff openSyllables)
  | "pp" | "prepend" => some clusterPrepend
  | "ri" | "regionalindicator" => some (binary "Regional_Indicator")
  | "sm" | "spacingmark" => some clusterSpacing
  | "t" => some (CharSet.ofTable ["11a8-11ff d7cb-d7fb"])
  | "v" => some (CharSet.ofTable ["1160-11a7 d7b0-d7c6 16d63 16d67-16d6a"])
  | "zwj" => some (CharSet.ofTable ["200d"])
  | _ => none

/-! ## Words -/

/-- Marks that belong to the character before them, the joiner apart. -/
def wordExtend : CharSet := clusterExtend.union (categories ["Mc"])

def hebrewLetter : CharSet := (CharSet.ofTable
  ((scriptRanges.lookup "Hebrew").getD [])).inter (categories ["Lo"])

def katakana : CharSet :=
  (CharSet.ofTable ((scriptRanges.lookup "Katakana").getD [])).union
    (CharSet.ofTable ["3031-3035 309b-309c 30a0 30fc ff70"])

/-- Characters of scripts that are written without spaces between words. -/
def spaceless : CharSet :=
  CharSet.ofRanges (["Thai", "Lao", "Myanmar", "Khmer", "Tai_Le", "New_Tai_Lue", "Tai_Tham",
    "Tai_Viet", "Ahom", "Hiragana"].flatMap fun s =>
      (CharSet.ofTable ((scriptRanges.lookup s).getD [])).ranges)

def wordLetter : CharSet :=
  ((alphabetic.diff (binary "Ideographic")).diff
    ((spaceless.union katakana).union (wordExtend.union hebrewLetter))).union
    (CharSet.ofTable
      ["2c2-2c5 2d2-2d7 2de-2df 2e5-2eb 2ed 2ef-2ff 55a-55c 55e 58a 5f3 70f a708-a716 a720-a721",
       "a789-a78a ab5b"])

/-- Digits and the signs that belong to them. -/
def numeric : CharSet :=
  (digit.union numberSigns).diff (CharSet.ofTable ["70f"])

/-- Format characters outside numbers, letters and marks. -/
def formatSigns : CharSet :=
  (categories ["Cf"]).diff ((joiners.union graphemeExtend).union clusterPrepend)

/-- The characters of a class for words. -/
def wordClass? (name : List Char) : Option CharSet :=
  match String.ofList name with
  | "cr" => some (CharSet.ofTable ["d"])
  | "dq" | "doublequote" => some (CharSet.ofTable ["22"])
  | "ex" | "extendnumlet" =>
    some (CharSet.ofTable ["5f 202f 203f-2040 2054 fe33-fe34 fe4d-fe4f ff3f"])
  | "extend" => some wordExtend
  | "fo" | "format" => some (formatSigns.diff (CharSet.ofTable ["200b"]))
  | "hl" | "hebrewletter" => some hebrewLetter
  | "ka" | "katakana" => some katakana
  | "le" | "aletter" => some wordLetter
  | "lf" => some (CharSet.ofTable ["a"])
  | "mb" | "midnumlet" => some (CharSet.ofTable ["2e 2018-2019 2024 fe52 ff07 ff0e"])
  | "ml" | "midletter" => some (CharSet.ofTable ["3a b7 387 55f 5f4 2027 fe13 fe55 ff1a"])
  | "mn" | "midnum" =>
    some (CharSet.ofTable ["2c 3b 37e 589 60c-60d 66c 7f8 2044 fe10 fe14 fe50 fe54 ff0c ff1b"])
  | "nl" | "newline" => some (CharSet.ofTable ["b-c 85 2028-2029"])
  | "nu" | "numeric" => some (numeric.union (CharSet.ofTable ["66b"]))
  | "ri" | "regionalindicator" => some (binary "Regional_Indicator")
  | "sq" | "singlequote" => some (CharSet.ofTable ["27"])
  | "wsegspace" => some (CharSet.ofTable ["20 1680 2000-2006 2008-200a 205f 3000"])
  | "zwj" => some (CharSet.ofTable ["200d"])
  | _ => none

/-! ## Sentences -/

/-- Marks that belong to the character before them, the joiners among them. -/
def sentenceExtend : CharSet :=
  (graphemeExtend.union (categories ["Mc"])).union (CharSet.ofTable ["200d"])

def sentenceLower : CharSet :=
  (binary "Lowercase").diff (graphemeExtend.union (CharSet.ofTable ["10d0-10fa 10fd-10ff"]))

def sentenceUpper : CharSet :=
  ((binary "Uppercase").union (categories ["Lt"])).diff (CharSet.ofTable ["1c90-1cba 1cbd-1cbf"])

/-- Full stops, which need not end a sentence. -/
def fullStops : CharSet := CharSet.ofTable ["2e 2024 fe52 ff0e"]

/-- The characters of a class for sentences. -/
def sentenceClass? (name : List Char) : Option CharSet :=
  match String.ofList name with
  | "at" | "aterm" => some fullStops
  | "cl" | "close" =>
    some ((categories ["Pe", "Pf", "Pi", "Ps"]).union
      (CharSet.ofTable ["22 27 275b-2760 2e00-2e01 2e06-2e08 2e0b 1f676-1f678"]))
  | "cr" => some (CharSet.ofTable ["d"])
  | "ex" | "extend" => some sentenceExtend
  | "fo" | "format" => some formatSigns
  | "le" | "oletter" =>
    some ((alphabetic.union (CharSet.ofTable ["5f3"])).diff
      ((sentenceLower.union sentenceUpper).union sentenceExtend))
  | "lf" => some (CharSet.ofTable ["a"])
  | "lo" | "lower" => some sentenceLower
  | "nu" | "numeric" => some (numeric.union (CharSet.ofTable ["66b-66c"]))
  | "sc" | "scontinue" =>
    some (CharSet.ofTable
      ["2c-2d 3a 55d 60c-60d 7f8 1802 1808 2013-2014 3001 fe10-fe11 fe13 fe31-fe32 fe50-fe51 fe55",
       "fe58 fe63 ff0c-ff0d ff1a ff64"])
  | "se" | "sep" => some (CharSet.ofTable ["85 2028-2029"])
  | "sp" => some (space.diff (CharSet.ofTable ["a d 85 2028-2029"]))
  | "st" | "sterm" => some ((binary "Sentence_Terminal").diff fullStops)
  | "up" | "upper" => some sentenceUpper
  | _ => none

end GrammarKit.Text.Property
