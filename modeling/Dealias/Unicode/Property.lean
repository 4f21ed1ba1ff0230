import Dealias.Unicode.Age
import Dealias.Unicode.Case

/-!
# Properties by their names

A property of characters is asked for by its name, or by its name and one of its values.  Without a
value the name can also be that of a category or of a script.  Some properties are known by name
only, and so are some values.
-/

namespace Dealias.Unicode

open Text

/-- Why a property cannot be had: it is not known, or its value is not. -/
inductive Missing
  | property
  | value
  deriving DecidableEq

namespace Property

/-- The properties that a character has or has not. -/
def binary : List Named :=
  [⟨["ASCII_Hex_Digit", "AHex"], asciiHexDigit⟩, ⟨["Alphabetic", "Alpha"], alphabetic⟩,
   ⟨["Bidi_Control", "Bidi_C"], bidiControl⟩, ⟨["Bidi_Mirrored", "Bidi_M"], bidiMirrored⟩,
   ⟨["Case_Ignorable", "CI"], caseIgnorable⟩, ⟨["Cased"], cased⟩,
   ⟨["Changes_When_Casefolded", "CWCF"], changesWhenCasefolded⟩,
   ⟨["Changes_When_Casemapped", "CWCM"], changesWhenCasemapped⟩,
   ⟨["Changes_When_Lowercased", "CWL"], changesWhenLowercased⟩,
   ⟨["Changes_When_Titlecased", "CWT"], changesWhenTitlecased⟩,
   ⟨["Changes_When_Uppercased", "CWU"], changesWhenUppercased⟩, ⟨["Dash"], dash⟩,
   ⟨["Default_Ignorable_Code_Point", "DI"], defaultIgnorableCodePoint⟩,
   ⟨["Deprecated", "Dep"], deprecated⟩, ⟨["Diacritic", "Dia"], diacritic⟩, ⟨["Emoji"], emoji⟩,
   ⟨["Emoji_Component", "EComp"], emojiComponent⟩, ⟨["Emoji_Modifier", "EMod"], emojiModifier⟩,
   ⟨["Emoji_Modifier_Base", "EBase"], emojiModifierBase⟩,
   ⟨["Emoji_Presentation", "EPres"], emojiPresentation⟩,
   ⟨["Extended_Pictographic", "ExtPict"], extendedPictographic⟩, ⟨["Extender", "Ext"], extender⟩,
   ⟨["Grapheme_Base", "Gr_Base"], graphemeBase⟩, ⟨["Grapheme_Extend", "Gr_Ext"], graphemeExtend⟩,
   ⟨["Grapheme_Link", "Gr_Link"], graphemeLink⟩, ⟨["Hex_Digit", "Hex"], hexDigit⟩,
   ⟨["Hyphen"], hyphen⟩, ⟨["IDS_Binary_Operator", "IDSB"], idsBinaryOperator⟩,
   ⟨["IDS_Trinary_Operator", "IDST"], idsTrinaryOperator⟩,
   ⟨["IDS_Unary_Operator", "IDSU"], idsUnaryOperator⟩,
   ⟨["ID_Compat_Math_Continue"], idCompatMathContinue⟩,
   ⟨["ID_Compat_Math_Start"], idCompatMathStart⟩, ⟨["ID_Continue", "IDC"], idContinue⟩,
   ⟨["ID_Start", "IDS"], idStart⟩, ⟨["Ideographic", "Ideo"], ideographic⟩,
   ⟨["Join_Control", "Join_C"], joinControl⟩,
   ⟨["Logical_Order_Exception", "LOE"], logicalOrderException⟩, ⟨["Lowercase", "Lower"], lowercase⟩,
   ⟨["Math"], math⟩, ⟨["Modifier_Combining_Mark", "MCM"], modifierCombiningMark⟩,
   ⟨["Noncharacter_Code_Point", "NChar"], noncharacterCodePoint⟩,
   ⟨["Other_Alphabetic", "OAlpha"], otherAlphabetic⟩,
   ⟨["Other_Default_Ignorable_Code_Point", "ODI"], otherDefaultIgnorableCodePoint⟩,
   ⟨["Other_Grapheme_Extend", "OGr_Ext"], otherGraphemeExtend⟩,
   ⟨["Other_ID_Continue", "OIDC"], otherIdContinue⟩, ⟨["Other_ID_Start", "OIDS"], otherIdStart⟩,
   ⟨["Other_Lowercase", "OLower"], otherLowercase⟩, ⟨["Other_Math", "OMath"], otherMath⟩,
   ⟨["Other_Uppercase", "OUpper"], otherUppercase⟩, ⟨["Pattern_Syntax", "Pat_Syn"], patternSyntax⟩,
   ⟨["Pattern_White_Space", "Pat_WS"], patternWhiteSpace⟩,
   ⟨["Prepended_Concatenation_Mark", "PCM"], prependedConcatenationMark⟩,
   ⟨["Quotation_Mark", "QMark"], quotationMark⟩, ⟨["Radical"], radical⟩,
   ⟨["Regional_Indicator", "RI"], regionalIndicator⟩,
   ⟨["Sentence_Terminal", "STerm"], sentenceTerminal⟩, ⟨["Soft_Dotted", "SD"], softDotted⟩,
   ⟨["Terminal_Punctuation", "Term"], terminalPunctuation⟩,
   ⟨["Unified_Ideograph", "UIdeo"], unifiedIdeograph⟩, ⟨["Uppercase", "Upper"], uppercase⟩,
   ⟨["Variation_Selector", "VS"], variationSelector⟩,
   ⟨["White_Space", "WSpace", "space"], whiteSpace⟩, ⟨["XID_Continue", "XIDC"], xidContinue⟩,
   ⟨["XID_Start", "XIDS"], xidStart⟩]

/-- The properties that have values, with the set for a value. -/
def valued : List (List String × (List Char → Option CharSet)) :=
  [(["General_Category", "gc"], Named.find? Category.all), (["Script", "sc"], Named.find? Script.all),
   (["Script_Extensions", "scx"], Named.find? Script.extensions), (["Age"], Version.find?),
   (["Grapheme_Cluster_Break", "GCB"], Named.find? graphemeBreaks),
   (["Word_Break", "WB"], Named.find? wordBreaks),
   (["Sentence_Break", "SB"], Named.find? sentenceBreaks)]

/-- The properties that are known by name only. -/
def nameOnly : List String :=
  ["Bidi_Class", "bc", "Bidi_Mirroring_Glyph", "bmg", "Bidi_Paired_Bracket", "bpb",
   "Bidi_Paired_Bracket_Type", "bpt", "Block", "blk", "Canonical_Combining_Class", "ccc",
   "Case_Folding", "cf", "Composition_Exclusion", "CE", "Changes_When_NFKC_Casefolded", "CWKCF",
   "kAccountingNumeric", "cjkAccountingNumeric", "kCompatibilityVariant", "cjkCompatibilityVariant",
   "kIICore", "cjkIICore", "kIRG_GSource", "cjkIRG_GSource", "kIRG_HSource", "cjkIRG_HSource",
   "kIRG_JSource", "cjkIRG_JSource", "kIRG_KPSource", "cjkIRG_KPSource", "kIRG_KSource",
   "cjkIRG_KSource", "kIRG_MSource", "cjkIRG_MSource", "kIRG_SSource", "cjkIRG_SSource",
   "kIRG_TSource", "cjkIRG_TSource", "kIRG_UKSource", "cjkIRG_UKSource", "kIRG_USource",
   "cjkIRG_USource", "kIRG_VSource", "cjkIRG_VSource", "kOtherNumeric", "cjkOtherNumeric",
   "kPrimaryNumeric", "cjkPrimaryNumeric", "kRSUnicode", "cjkRSUnicode", "Unicode_Radical_Stroke",
   "URS", "Full_Composition_Exclusion", "Comp_Ex", "Decomposition_Mapping", "dm",
   "Decomposition_Type", "dt", "East_Asian_Width", "ea", "Equivalent_Unified_Ideograph", "EqUIdeo",
   "Expands_On_NFC", "XO_NFC", "Expands_On_NFD", "XO_NFD", "Expands_On_NFKC", "XO_NFKC",
   "Expands_On_NFKD", "XO_NFKD", "FC_NFKC_Closure", "FC_NFKC", "Hangul_Syllable_Type", "hst",
   "Indic_Conjunct_Break", "InCB", "Indic_Positional_Category", "InPC", "Indic_Syllabic_Category",
   "InSC", "ISO_Comment", "isc", "Jamo_Short_Name", "JSN", "Joining_Group", "jg", "Joining_Type",
   "jt", "kEH_Cat", "kEH_Desc", "kEH_HG", "kEH_IFAO", "kEH_JSesh", "kEH_NoMirror", "kEH_NoRotate",
   "Line_Break", "lb", "Lowercase_Mapping", "lc", "Name", "na", "Unicode_1_Name", "na1",
   "Name_Alias", "NFC_Quick_Check", "NFC_QC", "NFD_Quick_Check", "NFD_QC", "NFKC_Casefold",
   "NFKC_CF", "NFKC_Quick_Check", "NFKC_QC", "NFKC_Simple_Casefold", "NFKC_SCF", "NFKD_Quick_Check",
   "NFKD_QC", "Numeric_Type", "nt", "Numeric_Value", "nv", "Simple_Case_Folding", "scf", "sfc",
   "Simple_Lowercase_Mapping", "slc", "Simple_Titlecase_Mapping", "stc", "Simple_Uppercase_Mapping",
   "suc", "Titlecase_Mapping", "tc", "Uppercase_Mapping", "uc", "Vertical_Orientation", "vo"]

/-- The categories and scripts that are known by name only: no character belongs to them. -/
def emptyValues : List String := ["Surrogate", "Cs"] ++ Script.empty

/-- The set for a name without a value. -/
def find (name : List Char) : Except Missing CharSet :=
  match Named.find? (binary ++ Category.all ++ Script.all) name with
  | some set => .ok set
  | none => .error (if isOneOf emptyValues name then .value else .property)

/-- The set for a name and a value. -/
def findValue (name value : List Char) : Except Missing CharSet :=
  match valued.find? fun property => isOneOf property.1 name with
  | some (_, values) =>
    match values value with
    | some set => .ok set
    | none => .error .value
  | none =>
    if (Named.find? binary name).isSome || isOneOf nameOnly name then .error .value
    else .error .property

end Property

end Dealias.Unicode
