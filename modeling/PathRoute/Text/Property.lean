import PathRoute.Text.CharClass
import PathRoute.Text.Script
import PathRoute.Text.Version

/-!
# Character properties by name

The class that a property's name stands for: a binary property, a general category or a script,
or a property and its value. Names are compared in loose form, without regard to case, spaces,
hyphens, underscores and a leading "is".
-/

namespace PathRoute.Property

open CharClass

/-- The loose form of a name. What is left of "isc" is not "c", which names a category. -/
def looseName (name : List Char) : String :=
  let tail := match name with
    | i :: s :: rest => if i.toLower == 'i' && s.toLower == 's' then rest else name
    | _ => name
  let kept := (tail.filter fun c => c.toNat < 0x80 && !(c == ' ' || c == '_' || c == '-')).map
    Char.toLower
  if tail.length < name.length && kept == ['c'] then "isc" else .ofList kept

/-! ## Properties put together from others -/

def alphabetic : CharClass :=
  .union (ofCategories (Category.letters ++ [.letterNumber])) (.ranges Ranges.otherAlphabetic)

def lowercase : CharClass :=
  .union (ofCategories [.lowercaseLetter]) (.ranges Ranges.otherLowercase)

def uppercase : CharClass :=
  .union (ofCategories [.uppercaseLetter]) (.ranges Ranges.otherUppercase)

def cased : CharClass := unions [lowercase, uppercase, ofCategories [.titlecaseLetter]]

def math : CharClass := .union (ofCategories [.mathSymbol]) (.ranges Ranges.otherMath)

def graphemeExtend : CharClass :=
  .union (ofCategories [.nonspacingMark, .enclosingMark]) (.ranges Ranges.otherGraphemeExtend)

def graphemeBase : CharClass :=
  .compl <| .union graphemeExtend <| ofCategories <|
    Category.others ++ [.lineSeparator, .paragraphSeparator]

/-- Characters that patterns use as syntax and that identifiers therefore do without. -/
def patternUse : CharClass := .ranges (Ranges.patternSyntax ++ Ranges.patternWhiteSpace)

def idStart : CharClass :=
  .diff (.union (ofCategories (Category.letters ++ [.letterNumber])) (.ranges Ranges.otherIdStart))
    patternUse

def idContinue : CharClass :=
  .diff (unions [idStart,
      ofCategories [.nonspacingMark, .spacingMark, .decimalNumber, .connectorPunctuation],
      .ranges Ranges.otherIdContinue])
    patternUse

def changesWhenCasemapped : CharClass :=
  .ranges (Ranges.changesWhenLowercased ++ Ranges.changesWhenTitlecased ++
    Ranges.changesWhenUppercased)

/-! ## Binary properties -/

/-- The binary properties with their names in loose form. -/
def binaries : List (List String × CharClass) := [
  (["asciihexdigit", "ahex"], .ranges Ranges.asciiHexDigit),
  (["alphabetic", "alpha"], alphabetic),
  (["bidicontrol", "bidic"], .ranges Ranges.bidiControl),
  (["bidimirrored", "bidim"], .ranges Ranges.bidiMirrored),
  (["cased"], cased),
  (["caseignorable", "ci"], .ranges Ranges.caseIgnorable),
  (["changeswhencasefolded", "cwcf"], .ranges Ranges.changesWhenCasefolded),
  (["changeswhencasemapped", "cwcm"], changesWhenCasemapped),
  (["changeswhenlowercased", "cwl"], .ranges Ranges.changesWhenLowercased),
  (["changeswhentitlecased", "cwt"], .ranges Ranges.changesWhenTitlecased),
  (["changeswhenuppercased", "cwu"], .ranges Ranges.changesWhenUppercased),
  (["dash"], .ranges Ranges.dash),
  (["defaultignorablecodepoint", "di"], .ranges Ranges.defaultIgnorable),
  (["deprecated", "dep"], .ranges Ranges.deprecated),
  (["diacritic", "dia"], .ranges Ranges.diacritic),
  (["emoji"], .ranges Ranges.emoji),
  (["emojicomponent", "ecomp"], .ranges Ranges.emojiComponent),
  (["emojimodifier", "emod"], .ranges Ranges.emojiModifier),
  (["emojimodifierbase", "ebase"], .ranges Ranges.emojiModifierBase),
  (["emojipresentation", "epres"], .ranges Ranges.emojiPresentation),
  (["extendedpictographic", "extpict"], .ranges Ranges.extendedPictographic),
  (["extender", "ext"], .ranges Ranges.extender),
  (["graphemebase", "grbase"], graphemeBase),
  (["graphemeextend", "grext"], graphemeExtend),
  (["graphemelink", "grlink"], .ranges Ranges.graphemeLink),
  (["hexdigit", "hex"], .ranges Ranges.hexDigit),
  (["hyphen"], .ranges Ranges.hyphen),
  (["idcompatmathcontinue"], .ranges Ranges.idCompatMathContinue),
  (["idcompatmathstart"], .ranges Ranges.idCompatMathStart),
  (["idcontinue", "idc"], idContinue),
  (["idstart", "ids"], idStart),
  (["ideographic", "ideo"], .ranges Ranges.ideographic),
  (["idsbinaryoperator", "idsb"], .ranges Ranges.idsBinaryOperator),
  (["idstrinaryoperator", "idst"], .ranges Ranges.idsTrinaryOperator),
  (["idsunaryoperator", "idsu"], .ranges Ranges.idsUnaryOperator),
  (["joincontrol", "joinc"], .ranges Ranges.joinControl),
  (["logicalorderexception", "loe"], .ranges Ranges.logicalOrderException),
  (["lowercase", "lower"], lowercase),
  (["math"], math),
  (["modifiercombiningmark", "mcm"], .ranges Ranges.modifierCombiningMark),
  (["noncharactercodepoint", "nchar"], .ranges Ranges.noncharacter),
  (["otheralphabetic", "oalpha"], .ranges Ranges.otherAlphabetic),
  (["otherdefaultignorablecodepoint", "odi"], .ranges Ranges.otherDefaultIgnorable),
  (["othergraphemeextend", "ogrext"], .ranges Ranges.otherGraphemeExtend),
  (["otheridcontinue", "oidc"], .ranges Ranges.otherIdContinue),
  (["otheridstart", "oids"], .ranges Ranges.otherIdStart),
  (["otherlowercase", "olower"], .ranges Ranges.otherLowercase),
  (["othermath", "omath"], .ranges Ranges.otherMath),
  (["otheruppercase", "oupper"], .ranges Ranges.otherUppercase),
  (["patternsyntax", "patsyn"], .ranges Ranges.patternSyntax),
  (["patternwhitespace", "patws"], .ranges Ranges.patternWhiteSpace),
  (["prependedconcatenationmark", "pcm"], .ranges Ranges.prependedConcatenationMark),
  (["quotationmark", "qmark"], .ranges Ranges.quotationMark),
  (["radical"], .ranges Ranges.radical),
  (["regionalindicator", "ri"], .ranges Ranges.regionalIndicator),
  (["sentenceterminal", "sterm"], .ranges Ranges.sentenceTerminal),
  (["softdotted", "sd"], .ranges Ranges.softDotted),
  (["terminalpunctuation", "term"], .ranges Ranges.terminalPunctuation),
  (["unifiedideograph", "uideo"], .ranges Ranges.unifiedIdeograph),
  (["uppercase", "upper"], uppercase),
  (["variationselector", "vs"], .ranges Ranges.variationSelector),
  (["whitespace", "wspace", "space"], blank),
  (["xidcontinue", "xidc"], .diff idContinue (.ranges Ranges.notXidContinue)),
  (["xidstart", "xids"], .diff idStart (.ranges Ranges.notXidStart))]

/-! ## Breaks

The parts that characters play where a text is broken into graphemes, words and sentences, each with
its names in loose form. -/

namespace Grapheme

/-- Signs that are drawn together with what follows. -/
def prepend : CharClass :=
  .ranges (Ranges.prependedConcatenationMark ++ [
    (0xD4E, 0xD4E), (0x111C2, 0x111C3), (0x113D1, 0x113D1), (0x1193F, 0x1193F), (0x11941, 0x11941),
    (0x11A3A, 0x11A3A), (0x11A84, 0x11A89), (0x11D46, 0x11D46), (0x11F02, 0x11F02)])

/-- Signs that are drawn together with what stands before. -/
def extend : CharClass := .union graphemeExtend (.ranges Ranges.emojiModifier)

/-- Signs that are not drawn, apart from line ends and what joins or extends other characters. -/
def control : CharClass :=
  .diff
    (.union (ofCategories [.lineSeparator, .paragraphSeparator, .control, .format])
      (.inter (ofCategories [.unassigned]) (.ranges Ranges.defaultIgnorable)))
    (.union graphemeExtend (.ranges ([(0x0A, 0x0A), (0x0D, 0x0D)] ++ Ranges.joinControl ++
      Ranges.prependedConcatenationMark)))

/-- Signs that take room of their own beside what stands before. -/
def spacingMark : CharClass :=
  .diff (.union (ofCategories [.spacingMark]) (.ranges [(0xE33, 0xE33), (0xEB3, 0xEB3)]))
    (.union extend (.ranges [
      (0x102B, 0x102C), (0x1038, 0x1038), (0x1062, 0x1064), (0x1067, 0x106D), (0x1083, 0x1083),
      (0x1087, 0x108C), (0x108F, 0x108F), (0x109A, 0x109C), (0x1A61, 0x1A61), (0x1A63, 0x1A64),
      (0xAA7B, 0xAA7B), (0xAA7D, 0xAA7D), (0x11720, 0x11721)]))

/-- The first of the syllables that differ in their last consonant only, which has none. -/
def openSyllable : CharClass :=
  .ranges ((List.range 399).map fun i => (0xAC00 + 28 * i, 0xAC00 + 28 * i))

def breaks : List (List String × CharClass) := [
  (["cr"], .single '\r'),
  (["control", "cn"], control),
  (["extend", "ex"], extend),
  (["l"], .ranges [(0x1100, 0x115F), (0xA960, 0xA97C)]),
  (["lf"], .single '\n'),
  (["lv"], openSyllable),
  (["lvt"], .diff (.ranges [(0xAC00, 0xD7A3)]) openSyllable),
  (["prepend", "pp"], prepend),
  (["regionalindicator", "ri"], .ranges Ranges.regionalIndicator),
  (["spacingmark", "sm"], spacingMark),
  (["t"], .ranges [(0x11A8, 0x11FF), (0xD7CB, 0xD7FB)]),
  (["v"], .ranges [(0x1160, 0x11A7), (0xD7B0, 0xD7C6), (0x16D63, 0x16D63), (0x16D67, 0x16D6A)]),
  (["zwj"], .single '\u200D')]

end Grapheme

/-- Marks of all kinds, which belong to the character before. -/
def attached : CharClass := .union graphemeExtend (ofCategories [.spacingMark])

/-- Digits, the signs between their groups and the signs that embrace them. -/
def numeric : CharClass :=
  .ranges (Category.rangesOf [.decimalNumber] ++ [(0x66B, 0x66C)] ++
    Ranges.prependedConcatenationMark.filter (· ≠ (0x70F, 0x70F)))

/-- Signs for the layout of a text, apart from those that join or precede other characters. -/
def layout : CharClass :=
  .diff (ofCategories [.format])
    (.union attached (.ranges (Ranges.joinControl ++ Ranges.prependedConcatenationMark)))

namespace Word

def katakana : CharClass :=
  .ranges (Script.katakana.ranges ++ [
    (0x3031, 0x3035), (0x309B, 0x309C), (0x30A0, 0x30A0), (0x30FC, 0x30FC), (0xFF70, 0xFF70)])

def hebrewLetter : CharClass :=
  .inter (.ranges Script.hebrew.ranges) (ofCategories [.otherLetter])

/-- The scripts without spaces between words, where a break cannot be told from the letters. -/
def unspaced : CharClass :=
  .ranges ([Script.ahom, .hiragana, .khmer, .lao, .myanmar, .newTaiLue, .taiLe, .taiTham, .taiViet,
    .thai].flatMap Script.ranges)

def letter : CharClass :=
  .diff
    (.union alphabetic (.ranges [
      (0x2C2, 0x2C5), (0x2D2, 0x2D7), (0x2DE, 0x2DF), (0x2E5, 0x2EB), (0x2ED, 0x2ED),
      (0x2EF, 0x2FF), (0x55A, 0x55C), (0x55E, 0x55E), (0x58A, 0x58A), (0x5F3, 0x5F3),
      (0x70F, 0x70F), (0xA708, 0xA716), (0xA720, 0xA721), (0xA789, 0xA78A), (0xAB5B, 0xAB5B)]))
    (unions [.ranges Ranges.ideographic, katakana, hebrewLetter, unspaced, attached])

def breaks : List (List String × CharClass) := [
  (["aletter", "le"], letter),
  (["cr"], .single '\r'),
  (["doublequote", "dq"], .single '"'),
  (["extend"], .union attached (.ranges Ranges.emojiModifier)),
  (["extendnumlet", "ex"], .union (ofCategories [.connectorPunctuation]) (.single '\u202F')),
  (["format", "fo"], .diff layout (.single '\u200B')),
  (["hebrewletter", "hl"], hebrewLetter),
  (["katakana", "ka"], katakana),
  (["lf"], .single '\n'),
  (["midletter", "ml"], .ranges [
    (0x3A, 0x3A), (0xB7, 0xB7), (0x387, 0x387), (0x55F, 0x55F), (0x5F4, 0x5F4), (0x2027, 0x2027),
    (0xFE13, 0xFE13), (0xFE55, 0xFE55), (0xFF1A, 0xFF1A)]),
  (["midnum", "mn"], .ranges [
    (0x2C, 0x2C), (0x3B, 0x3B), (0x37E, 0x37E), (0x589, 0x589), (0x60C, 0x60D), (0x66C, 0x66C),
    (0x7F8, 0x7F8), (0x2044, 0x2044), (0xFE10, 0xFE10), (0xFE14, 0xFE14), (0xFE50, 0xFE50),
    (0xFE54, 0xFE54), (0xFF0C, 0xFF0C), (0xFF1B, 0xFF1B)]),
  (["midnumlet", "mb"], .ranges [
    (0x2E, 0x2E), (0x2018, 0x2019), (0x2024, 0x2024), (0xFE52, 0xFE52), (0xFF07, 0xFF07),
    (0xFF0E, 0xFF0E)]),
  (["newline", "nl"], .ranges [(0x0B, 0x0C), (0x85, 0x85), (0x2028, 0x2029)]),
  (["numeric", "nu"], .diff numeric (.single '\u066C')),
  (["regionalindicator", "ri"], .ranges Ranges.regionalIndicator),
  (["singlequote", "sq"], .single '\''),
  (["wsegspace"], .diff (ofCategories [.spaceSeparator]) (.ranges [
    (0xA0, 0xA0), (0x2007, 0x2007), (0x202F, 0x202F)])),
  (["zwj"], .single '\u200D')]

end Word

namespace Sentence

def separator : CharClass := .ranges [(0x85, 0x85), (0x2028, 0x2029)]

/-- Lower case apart from the letters of the Georgian script, which has no capitals in use. -/
def lower : CharClass :=
  .diff lowercase (.union graphemeExtend (.ranges [(0x10D0, 0x10FA), (0x10FD, 0x10FF)]))

def upper : CharClass :=
  .diff (.union uppercase (ofCategories [.titlecaseLetter]))
    (.ranges [(0x1C90, 0x1CBA), (0x1CBD, 0x1CBF)])

/-- Full stops that may end an abbreviation as well. -/
def fullStop : CharClass :=
  .ranges [(0x2E, 0x2E), (0x2024, 0x2024), (0xFE52, 0xFE52), (0xFF0E, 0xFF0E)]

/-- Brackets and quotation marks. -/
def closing : CharClass :=
  .union
    (ofCategories
      [.openPunctuation, .closePunctuation, .initialPunctuation, .finalPunctuation])
    (.ranges [
      (0x22, 0x22), (0x27, 0x27), (0x275B, 0x2760), (0x2E00, 0x2E01), (0x2E06, 0x2E08),
      (0x2E0B, 0x2E0B), (0x1F676, 0x1F678)])

def breaks : List (List String × CharClass) := [
  (["aterm", "at"], fullStop),
  (["cr"], .single '\r'),
  (["close", "cl"], .diff closing (.ranges Ranges.sentenceTerminal)),
  (["extend", "ex"], .union attached (.single '\u200D')),
  (["format", "fo"], layout),
  (["lf"], .single '\n'),
  (["lower", "lo"], lower),
  (["numeric", "nu"], numeric),
  (["oletter", "le"], .diff
    (.union alphabetic (.ranges [(0x5F3, 0x5F3), (0x70F, 0x70F)]))
    (unions [lower, upper, attached])),
  (["scontinue", "sc"], .ranges [
    (0x2C, 0x2D), (0x3A, 0x3B), (0x37E, 0x37E), (0x55D, 0x55D), (0x60C, 0x60D), (0x7F8, 0x7F8),
    (0x1802, 0x1802), (0x1808, 0x1808), (0x2013, 0x2014), (0x3001, 0x3001), (0xFE10, 0xFE11),
    (0xFE13, 0xFE14), (0xFE31, 0xFE32), (0xFE50, 0xFE51), (0xFE54, 0xFE55), (0xFE58, 0xFE58),
    (0xFE63, 0xFE63), (0xFF0C, 0xFF0D), (0xFF1A, 0xFF1B), (0xFF64, 0xFF64)]),
  (["sep", "se"], separator),
  (["sp"], .diff blank (.union separator (.ranges [(0x0A, 0x0A), (0x0D, 0x0D)]))),
  (["sterm", "st"], .diff (.ranges Ranges.sentenceTerminal) fullStop),
  (["upper", "up"], upper)]

end Sentence

/-! ## Names -/

/-- The class of a name in a table. -/
def lookup? (table : List (List String × CharClass)) (name : String) : Option CharClass :=
  (table.find? fun e => e.1.contains name).map (·.2)

/-- The class of a general category or of a group of them. -/
def category? (name : String) : Option CharClass :=
  match name with
  | "any" => some any
  | "assigned" => some (.compl (ofCategories [.unassigned]))
  | "ascii" => some (.ranges Ascii.ascii)
  | _ => (Category.named? name).map ofCategories

def script? (name : String) : Option CharClass :=
  (Script.named? name).map fun s => .ranges s.ranges

/-- The class of a single name: a binary property, else a category, else a script. -/
def named? (name : List Char) : Option CharClass :=
  let name := looseName name
  lookup? binaries name <|> category? name <|> script? name

/-- The class of the characters whose property has a value. -/
def valued? (property value : List Char) : Option CharClass :=
  let value := looseName value
  match looseName property with
  | "gc" | "generalcategory" => category? value
  | "sc" | "script" => script? value
  | "scx" | "scriptextensions" => (Script.named? value).map fun s => .ranges s.extensions
  | "age" => (Version.ranges? value).map .ranges
  | "gcb" | "graphemeclusterbreak" => lookup? Grapheme.breaks value
  | "wb" | "wordbreak" => lookup? Word.breaks value
  | "sb" | "sentencebreak" => lookup? Sentence.breaks value
  | _ => none

end PathRoute.Property
