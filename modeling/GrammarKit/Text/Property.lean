import GrammarKit.Text.CharSet
import GrammarKit.Text.Property.Binary
import GrammarKit.Text.Property.Category
import GrammarKit.Text.Property.Script
import GrammarKit.Text.Property.ScriptExtension

/-!
# Properties of characters

Unicode gives every character a general category, a script and yes-or-no
properties. Here they are found by name, with the loose matching of names in
which case, blanks, underscores, hyphens and a leading `is` do not count; and
the classes that the library itself uses have names of their own.
-/
namespace GrammarKit.Text.Property

/-! ## Loose names -/

/-- A name without what loose matching ignores. -/
def looseName (name : List Char) : List Char :=
  let isMarked : Bool := match name with
    | a :: b :: _ => (a = 'i' || a = 'I') && (b = 's' || b = 'S')
    | _ => false
  let rest := (if isMarked then name.drop 2 else name).filterMap fun c =>
    if c = ' ' ∨ c = '_' ∨ c = '-' ∨ c.toNat ≥ 0x80 then none else some c.toLower
  -- The abbreviation of `ISO_Comment` is not the category `C`.
  if isMarked ∧ rest = ['c'] then ['i', 's', 'c'] else rest

/-- The rows of a table that stand first under the loose name `name`. -/
def rowsOf? (table : List (String × List String)) (name : List Char) : Option (List String) :=
  (table.find? fun e => looseName e.1.toList = name).map (·.2)

/-! ## General categories -/

/-- Long and short names of the general categories and the two-letter
categories they are made of. -/
def categoryNames : List (List String × List String) := [
  (["c", "other"], ["Cc", "Cf", "Cn", "Co"]),
  (["cc", "control", "cntrl"], ["Cc"]),
  (["cf", "format"], ["Cf"]),
  (["cn", "unassigned"], ["Cn"]),
  (["co", "privateuse"], ["Co"]),
  (["l", "letter"], ["Ll", "Lm", "Lo", "Lt", "Lu"]),
  (["lc", "casedletter"], ["Ll", "Lt", "Lu"]),
  (["ll", "lowercaseletter"], ["Ll"]),
  (["lm", "modifierletter"], ["Lm"]),
  (["lo", "otherletter"], ["Lo"]),
  (["lt", "titlecaseletter"], ["Lt"]),
  (["lu", "uppercaseletter"], ["Lu"]),
  (["m", "mark", "combiningmark"], ["Mc", "Me", "Mn"]),
  (["mc", "spacingmark"], ["Mc"]),
  (["me", "enclosingmark"], ["Me"]),
  (["mn", "nonspacingmark"], ["Mn"]),
  (["n", "number"], ["Nd", "Nl", "No"]),
  (["nd", "decimalnumber", "digit"], ["Nd"]),
  (["nl", "letternumber"], ["Nl"]),
  (["no", "othernumber"], ["No"]),
  (["p", "punctuation", "punct"], ["Pc", "Pd", "Pe", "Pf", "Pi", "Po", "Ps"]),
  (["pc", "connectorpunctuation"], ["Pc"]),
  (["pd", "dashpunctuation"], ["Pd"]),
  (["pe", "closepunctuation"], ["Pe"]),
  (["pf", "finalpunctuation"], ["Pf"]),
  (["pi", "initialpunctuation"], ["Pi"]),
  (["po", "otherpunctuation"], ["Po"]),
  (["ps", "openpunctuation"], ["Ps"]),
  (["s", "symbol"], ["Sc", "Sk", "Sm", "So"]),
  (["sc", "currencysymbol"], ["Sc"]),
  (["sk", "modifiersymbol"], ["Sk"]),
  (["sm", "mathsymbol"], ["Sm"]),
  (["so", "othersymbol"], ["So"]),
  (["z", "separator"], ["Zl", "Zp", "Zs"]),
  (["zl", "lineseparator"], ["Zl"]),
  (["zp", "paragraphseparator"], ["Zp"]),
  (["zs", "spaceseparator"], ["Zs"])]

/-- The union of two-letter categories. -/
def categories (short : List String) : CharSet :=
  CharSet.ofRanges (short.flatMap fun s =>
    ((categoryRanges.lookup s).elim CharSet.empty CharSet.ofTable).ranges)

/-- The general category with this loose name. -/
def category? (name : List Char) : Option CharSet :=
  if name = "any".toList then some CharSet.empty.complement
  else if name = "assigned".toList then some (categories ["Cn"]).complement
  else if name = "ascii".toList then some (CharSet.ofRanges [(0, 0x7f)])
  else (categoryNames.find? fun e => e.1.any fun n => n.toList = name).map fun e => categories e.2

/-! ## Scripts -/

/-- Short names of scripts. -/
def scriptAliases : List (String × String) := [
  ("adlm", "Adlam"), ("aghb", "Caucasian_Albanian"), ("arab", "Arabic"),
  ("armi", "Imperial_Aramaic"), ("armn", "Armenian"), ("avst", "Avestan"), ("bali", "Balinese"),
  ("bamu", "Bamum"), ("bass", "Bassa_Vah"), ("batk", "Batak"), ("beng", "Bengali"),
  ("bhks", "Bhaiksuki"), ("bopo", "Bopomofo"), ("brah", "Brahmi"), ("brai", "Braille"),
  ("bugi", "Buginese"), ("buhd", "Buhid"), ("cakm", "Chakma"), ("cans", "Canadian_Aboriginal"),
  ("cari", "Carian"), ("cher", "Cherokee"), ("chrs", "Chorasmian"), ("copt", "Coptic"),
  ("qaac", "Coptic"), ("cpmn", "Cypro_Minoan"), ("cprt", "Cypriot"), ("cyrl", "Cyrillic"),
  ("deva", "Devanagari"), ("diak", "Dives_Akuru"), ("dogr", "Dogra"), ("dsrt", "Deseret"),
  ("dupl", "Duployan"), ("egyp", "Egyptian_Hieroglyphs"), ("elba", "Elbasan"), ("elym", "Elymaic"),
  ("ethi", "Ethiopic"), ("geor", "Georgian"), ("glag", "Glagolitic"), ("gong", "Gunjala_Gondi"),
  ("gonm", "Masaram_Gondi"), ("goth", "Gothic"), ("gran", "Grantha"), ("grek", "Greek"),
  ("gujr", "Gujarati"), ("guru", "Gurmukhi"), ("hang", "Hangul"), ("hani", "Han"),
  ("hano", "Hanunoo"), ("hatr", "Hatran"), ("hebr", "Hebrew"), ("hira", "Hiragana"),
  ("hluw", "Anatolian_Hieroglyphs"), ("hmng", "Pahawh_Hmong"), ("hmnp", "Nyiakeng_Puachue_Hmong"),
  ("hung", "Old_Hungarian"), ("ital", "Old_Italic"), ("java", "Javanese"), ("kali", "Kayah_Li"),
  ("kana", "Katakana"), ("khar", "Kharoshthi"), ("khmr", "Khmer"), ("khoj", "Khojki"),
  ("kits", "Khitan_Small_Script"), ("knda", "Kannada"), ("kthi", "Kaithi"), ("lana", "Tai_Tham"),
  ("laoo", "Lao"), ("latn", "Latin"), ("lepc", "Lepcha"), ("limb", "Limbu"), ("lina", "Linear_A"),
  ("linb", "Linear_B"), ("lyci", "Lycian"), ("lydi", "Lydian"), ("mahj", "Mahajani"),
  ("maka", "Makasar"), ("mand", "Mandaic"), ("mani", "Manichaean"), ("marc", "Marchen"),
  ("medf", "Medefaidrin"), ("mend", "Mende_Kikakui"), ("merc", "Meroitic_Cursive"),
  ("mero", "Meroitic_Hieroglyphs"), ("mlym", "Malayalam"), ("mong", "Mongolian"), ("mroo", "Mro"),
  ("mtei", "Meetei_Mayek"), ("mult", "Multani"), ("mymr", "Myanmar"), ("nagm", "Nag_Mundari"),
  ("nand", "Nandinagari"), ("narb", "Old_North_Arabian"), ("nbat", "Nabataean"), ("nkoo", "Nko"),
  ("nshu", "Nushu"), ("ogam", "Ogham"), ("olck", "Ol_Chiki"), ("orkh", "Old_Turkic"),
  ("orya", "Oriya"), ("osge", "Osage"), ("osma", "Osmanya"), ("ougr", "Old_Uyghur"),
  ("palm", "Palmyrene"), ("pauc", "Pau_Cin_Hau"), ("perm", "Old_Permic"), ("phag", "Phags_Pa"),
  ("phli", "Inscriptional_Pahlavi"), ("phlp", "Psalter_Pahlavi"), ("phnx", "Phoenician"),
  ("plrd", "Miao"), ("prti", "Inscriptional_Parthian"), ("rjng", "Rejang"),
  ("rohg", "Hanifi_Rohingya"), ("runr", "Runic"), ("samr", "Samaritan"),
  ("sarb", "Old_South_Arabian"), ("saur", "Saurashtra"), ("sgnw", "SignWriting"),
  ("shaw", "Shavian"), ("shrd", "Sharada"), ("sidd", "Siddham"), ("sind", "Khudawadi"),
  ("sinh", "Sinhala"), ("sogd", "Sogdian"), ("sogo", "Old_Sogdian"), ("sora", "Sora_Sompeng"),
  ("soyo", "Soyombo"), ("sund", "Sundanese"), ("sylo", "Syloti_Nagri"), ("syrc", "Syriac"),
  ("tagb", "Tagbanwa"), ("takr", "Takri"), ("tale", "Tai_Le"), ("talu", "New_Tai_Lue"),
  ("taml", "Tamil"), ("tang", "Tangut"), ("tavt", "Tai_Viet"), ("telu", "Telugu"),
  ("tfng", "Tifinagh"), ("tglg", "Tagalog"), ("thaa", "Thaana"), ("tibt", "Tibetan"),
  ("tirh", "Tirhuta"), ("tnsa", "Tangsa"), ("ugar", "Ugaritic"), ("vaii", "Vai"),
  ("vith", "Vithkuqi"), ("wara", "Warang_Citi"), ("wcho", "Wancho"), ("xpeo", "Old_Persian"),
  ("xsux", "Cuneiform"), ("yezi", "Yezidi"), ("yiii", "Yi"), ("zanb", "Zanabazar_Square"),
  ("zinh", "Inherited"), ("qaai", "Inherited"), ("zyyy", "Common"), ("zzzz", "Unknown"),
  ("gara", "Garay"), ("gukh", "Gurung_Khema"), ("krai", "Kirat_Rai"), ("onao", "Ol_Onal"),
  ("sunu", "Sunuwar"), ("todr", "Todhri"), ("tutg", "Tulu_Tigalari")]

/-- The full name of the script with this loose name. -/
def scriptName? (name : List Char) : Option String :=
  match scriptAliases.find? fun e => e.1.toList = name with
  | some e => some e.2
  | none => (scriptRanges.find? fun e => looseName e.1.toList = name).map (·.1)

/-- The characters of a script. -/
def script? (name : List Char) : Option CharSet :=
  (scriptName? name).bind fun n => (scriptRanges.lookup n).map CharSet.ofTable

/-- The characters used with a script. -/
def scriptExtension? (name : List Char) : Option CharSet :=
  (scriptName? name).bind fun n =>
    match scriptExtensionRanges.lookup n with
    | some table => some (CharSet.ofTable table)
    | none => (scriptRanges.lookup n).map CharSet.ofTable

/-! ## Yes-or-no properties -/

/-- Short names of properties. -/
def binaryAliases : List (String × String) := [
  ("ahex", "ASCII_Hex_Digit"), ("alpha", "Alphabetic"), ("bidic", "Bidi_Control"),
  ("bidim", "Bidi_Mirrored"), ("ci", "Case_Ignorable"), ("cwcf", "Changes_When_Casefolded"),
  ("cwcm", "Changes_When_Casemapped"), ("cwl", "Changes_When_Lowercased"),
  ("cwt", "Changes_When_Titlecased"), ("cwu", "Changes_When_Uppercased"),
  ("di", "Default_Ignorable_Code_Point"), ("dep", "Deprecated"), ("dia", "Diacritic"),
  ("ecomp", "Emoji_Component"), ("emod", "Emoji_Modifier"), ("ebase", "Emoji_Modifier_Base"),
  ("epres", "Emoji_Presentation"), ("extpict", "Extended_Pictographic"), ("ext", "Extender"),
  ("grbase", "Grapheme_Base"), ("grext", "Grapheme_Extend"), ("hex", "Hex_Digit"),
  ("idsb", "IDS_Binary_Operator"), ("idst", "IDS_Trinary_Operator"), ("idc", "ID_Continue"),
  ("ids", "ID_Start"), ("ideo", "Ideographic"), ("joinc", "Join_Control"),
  ("loe", "Logical_Order_Exception"), ("lower", "Lowercase"), ("nchar", "Noncharacter_Code_Point"),
  ("patsyn", "Pattern_Syntax"), ("patws", "Pattern_White_Space"), ("qmark", "Quotation_Mark"),
  ("ri", "Regional_Indicator"), ("sterm", "Sentence_Terminal"), ("sd", "Soft_Dotted"),
  ("term", "Terminal_Punctuation"), ("uideo", "Unified_Ideograph"), ("upper", "Uppercase"),
  ("vs", "Variation_Selector"), ("wspace", "White_Space"), ("space", "White_Space"),
  ("xidc", "XID_Continue"), ("xids", "XID_Start")]

/-- The characters with the property of this loose name. -/
def binary? (name : List Char) : Option CharSet :=
  match binaryAliases.find? fun e => e.1.toList = name with
  | some e => (binaryRanges.lookup e.2).map CharSet.ofTable
  | none => (rowsOf? binaryRanges name).map CharSet.ofTable

/-! ## Classes in use -/

/-- The property with exactly this table name. -/
def binary (name : String) : CharSet :=
  (binaryRanges.lookup name).elim CharSet.empty CharSet.ofTable

/-- Decimal digits. -/
def digit : CharSet := categories ["Nd"]

/-- White space. -/
def space : CharSet := binary "White_Space"

/-- Letters, marks, digits, connectors and joiners: what words are made of. -/
def word : CharSet :=
  CharSet.ofRanges ((binary "Alphabetic").ranges ++ (binary "Join_Control").ranges ++
    (categories ["Mc", "Me", "Mn", "Nd", "Pc"]).ranges)

/-- Letters in the widest sense. -/
def alphabetic : CharSet := binary "Alphabetic"

/-- Letters and numbers. -/
def alphanumeric : CharSet :=
  CharSet.ofRanges ((binary "Alphabetic").ranges ++ (categories ["Nd", "Nl", "No"]).ranges)

/-- Characters with case. -/
def cased : CharSet := binary "Cased"

/-- Characters that casing looks past. -/
def caseIgnorable : CharSet := binary "Case_Ignorable"

/-- Characters that attach to the one before them. -/
def graphemeExtend : CharSet := binary "Grapheme_Extend"

/-- Characters that show nothing, or nothing in particular: control and format
characters, private use and unassigned code points, separators. -/
def invisible : CharSet := categories ["Cc", "Cf", "Cn", "Co", "Zl", "Zp", "Zs"]

end GrammarKit.Text.Property
