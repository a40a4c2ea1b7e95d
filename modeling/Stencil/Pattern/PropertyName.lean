import Stencil.Pattern.Segmentation
import Stencil.Text.Age
import Stencil.Text.SharedCharacter

/-!
# Names of properties

The sets of characters that a pattern can name. A name stands for a binary property, a general
category or a script; a name with a value stands for the characters whose property has that value.
Case, blanks, hyphens and underscores make no difference, nor does a leading `is`.
-/

namespace Stencil.Pattern

open Stencil.Text

namespace CharSet

/-- The set that has a name among others. -/
def named? (sets : List (List String × CharSet)) (name : String) : Option CharSet :=
  (sets.find? fun s ↦ s.1.contains name).map (·.2)

/-- The binary properties. -/
def binaryProperties : List (List String × CharSet) := [
  (["alphabetic", "alpha"], alphabetic),
  (["asciihexdigit", "ahex"], .ranges asciiHexDigitRanges),
  (["bidicontrol", "bidic"], .ranges bidiControlRanges),
  (["bidimirrored", "bidim"], .ranges bidiMirroredRanges),
  (["cased"], cased),
  (["caseignorable", "ci"], caseIgnorable),
  (["changeswhencasefolded", "cwcf"], changesWhenCasefolded),
  (["changeswhencasemapped", "cwcm"], changesWhenCasemapped),
  (["changeswhenlowercased", "cwl"], changesWhenLowercased),
  (["changeswhentitlecased", "cwt"], changesWhenTitlecased),
  (["changeswhenuppercased", "cwu"], changesWhenUppercased),
  (["dash"], .ranges dashRanges),
  (["defaultignorablecodepoint", "di"], defaultIgnorable),
  (["deprecated", "dep"], .ranges deprecatedCharacterRanges),
  (["diacritic", "dia"], .ranges diacriticRanges),
  (["emoji"], .ranges emojiRanges),
  (["emojicomponent", "ecomp"], .ranges emojiComponentRanges),
  (["emojimodifier", "emod"], .ranges emojiModifierRanges),
  (["emojimodifierbase", "ebase"], .ranges emojiModifierBaseRanges),
  (["emojipresentation", "epres"], .ranges emojiPresentationRanges),
  (["extendedpictographic", "extpict"], .ranges extendedPictographicRanges),
  (["extender", "ext"], .ranges extenderRanges),
  (["graphemebase", "grbase"], graphemeBase),
  (["graphemeextend", "grext"], graphemeExtend),
  (["graphemelink", "grlink"], .ranges graphemeLinkRanges),
  (["hexdigit", "hex"], .ranges hexDigitRanges),
  (["hyphen"], .ranges hyphenRanges),
  (["idcontinue", "idc"], idContinue),
  (["idstart", "ids"], idStart),
  (["idcompatmathcontinue"], .ranges mathIdContinueRanges),
  (["idcompatmathstart"], .ranges mathIdStartRanges),
  (["ideographic", "ideo"], .ranges ideographicRanges),
  (["idsbinaryoperator", "idsb"], .ranges binaryCompositionRanges),
  (["idstrinaryoperator", "idst"], .ranges trinaryCompositionRanges),
  (["idsunaryoperator", "idsu"], .ranges unaryCompositionRanges),
  (["joincontrol", "joinc"], .ranges joinControlRanges),
  (["logicalorderexception", "loe"], .ranges logicalOrderExceptionRanges),
  (["lowercase", "lower"], lowercase),
  (["math"], math),
  (["modifiercombiningmark", "mcm"], .ranges modifierCombiningMarkRanges),
  (["noncharactercodepoint", "nchar"], .ranges noncharacterRanges),
  (["otheralphabetic", "oalpha"], .ranges otherAlphabeticRanges),
  (["otherdefaultignorablecodepoint", "odi"], .ranges otherIgnorableRanges),
  (["othergraphemeextend", "ogrext"], .ranges otherGraphemeExtendRanges),
  (["otheridcontinue", "oidc"], .ranges otherIdContinueRanges),
  (["otheridstart", "oids"], .ranges otherIdStartRanges),
  (["otherlowercase", "olower"], .ranges otherLowercaseRanges),
  (["othermath", "omath"], .ranges otherMathRanges),
  (["otheruppercase", "oupper"], .ranges otherUppercaseRanges),
  (["patternsyntax", "patsyn"], .ranges patternSyntaxRanges),
  (["patternwhitespace", "patws"], .ranges patternWhiteSpaceRanges),
  (["prependedconcatenationmark", "pcm"], .ranges prependedConcatenationMarkRanges),
  (["quotationmark", "qmark"], .ranges quotationMarkRanges),
  (["radical"], .ranges radicalRanges),
  (["regionalindicator", "ri"], .ranges regionalIndicatorRanges),
  (["sentenceterminal", "sterm"], .ranges sentenceTerminalRanges),
  (["softdotted", "sd"], .ranges softDottedRanges),
  (["terminalpunctuation", "term"], .ranges terminalPunctuationRanges),
  (["unifiedideograph", "uideo"], .ranges unifiedIdeographRanges),
  (["uppercase", "upper"], uppercase),
  (["variationselector", "vs"], .ranges variationSelectorRanges),
  (["whitespace", "wspace", "space"], blank true),
  (["xidcontinue", "xidc"], xidContinue),
  (["xidstart", "xids"], xidStart)]

/-- The short name of a general category with a long name. -/
def categoryAliases : List (String × String) := [
  ("letter", "l"), ("casedletter", "lc"), ("uppercaseletter", "lu"), ("lowercaseletter", "ll"),
  ("titlecaseletter", "lt"), ("modifierletter", "lm"), ("otherletter", "lo"), ("mark", "m"),
  ("combiningmark", "m"), ("nonspacingmark", "mn"), ("spacingmark", "mc"), ("enclosingmark", "me"),
  ("number", "n"), ("decimalnumber", "nd"), ("digit", "nd"), ("letternumber", "nl"),
  ("othernumber", "no"), ("punctuation", "p"), ("punct", "p"), ("connectorpunctuation", "pc"),
  ("dashpunctuation", "pd"), ("openpunctuation", "ps"), ("closepunctuation", "pe"),
  ("initialpunctuation", "pi"), ("finalpunctuation", "pf"), ("otherpunctuation", "po"),
  ("symbol", "s"), ("mathsymbol", "sm"), ("currencysymbol", "sc"), ("modifiersymbol", "sk"),
  ("othersymbol", "so"), ("separator", "z"), ("spaceseparator", "zs"), ("lineseparator", "zl"),
  ("paragraphseparator", "zp"), ("other", "c"), ("control", "cc"), ("cntrl", "cc"),
  ("format", "cf"), ("privateuse", "co"), ("unassigned", "cn")]

/-- The characters of a general category, or of a group of them named by its first letter. -/
def category? (name : String) : Option CharSet :=
  match (categoryAliases.lookup name).getD name with
  | "any" => some all
  | "ascii" => some (.ranges [(0x00, 0x7F)])
  | "assigned" => some assigned
  | "cn" => some (.compl assigned)
  | "lc" => some (tables [categoryLuRanges, categoryLlRanges, categoryLtRanges])
  | "c" => some (.union (categoryGroup 'c') (.compl assigned))
  | "l" => some (categoryGroup 'l')
  | "m" => some marks
  | "n" => some (categoryGroup 'n')
  | "p" => some (categoryGroup 'p')
  | "s" => some (categoryGroup 's')
  | "z" => some (categoryGroup 'z')
  | short => (categoryTables.lookup short).map .ranges

/-- The characters that are used with a script: those shared with it explicitly, and those of its
own that are shared with no script. -/
def sharedWith (s : Script) : CharSet :=
  let shared := tables (sharedCharacters.map (·.ranges))
  let explicit := tables <|
    (sharedCharacters.filter fun c ↦ c.scripts.any s.names.contains).map (·.ranges)
  .union (.diff (.ranges s.ranges) shared) explicit

/-- The characters that have been assigned up to a version, which is written like `4.1` or `V4_1`,
the latter reduced to a key. -/
def assignedBy? (version : String) : Option CharSet :=
  let isNamed (a : Age) : Bool :=
    version == toString a.major ++ "." ++ toString a.minor ||
      version == "v" ++ toString a.major ++ toString a.minor
  (ages.findIdx? isNamed).map fun i ↦ tables ((ages.take (i + 1)).map (·.ranges))

/-- A name reduced to what makes a difference: its ASCII characters in lowercase, without a leading
`is` and without blanks, hyphens and underscores. The name `isc` is kept apart from the category
`c`. -/
def propertyKey (name : List Char) : String :=
  let reduce (cs : List Char) : List Char :=
    (cs.filter fun c ↦ c.toNat < 128 && !(c == ' ' || c == '_' || c == '-')).map Char.toLower
  match name with
  | 'i' :: 's' :: rest | 'i' :: 'S' :: rest | 'I' :: 's' :: rest | 'I' :: 'S' :: rest =>
    match reduce rest with
    | ['c'] => "isc"
    | key => String.ofList key
  | _ => String.ofList (reduce name)

/-- The characters with a property. -/
def property? (name : List Char) : Option CharSet :=
  let key := propertyKey name
  (named? binaryProperties key <|> category? key) <|> (script? key).map fun s ↦ .ranges s.ranges

/-- The characters with a value of a property. -/
def propertyValue? (name value : List Char) : Option CharSet :=
  let key := propertyKey value
  match propertyKey name with
  | "generalcategory" | "gc" => category? key
  | "script" | "sc" => (script? key).map fun s ↦ .ranges s.ranges
  | "scriptextensions" | "scx" => (script? key).map sharedWith
  | "age" => assignedBy? key
  | "graphemeclusterbreak" | "gcb" => named? graphemeBreaks key
  | "wordbreak" | "wb" => named? wordBreaks key
  | "sentencebreak" | "sb" => named? sentenceBreaks key
  | _ => none

end CharSet

end Stencil.Pattern
