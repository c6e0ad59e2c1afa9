import Gedcom.Text.Age
import Gedcom.Text.ClusterBreak
import Gedcom.Text.Identifier
import Gedcom.Text.SentenceBreak
import Gedcom.Text.SharedScript

/-!
# Properties of characters

A set of characters can be asked for by the name of what its characters have in
common: a general category or a group of them, a script, or one of the
properties that a character has or has not.  Properties with many values are
asked for by name and value: category, script, use by a script, age, and the
classes of the boundaries between signs, words and sentences.

Names are compared without regard to case, blanks and low lines, and may begin
with `is`.  Where a name could mean several things, a property goes before a
category and a category before a script.
-/
namespace Gedcom.Text

/-- The properties that a character has or has not. -/
inductive Property
  | alphabetic
  | asciiHexDigit
  | bidiControl
  | caseIgnorable
  | cased
  | changesWhenCasefolded
  | changesWhenCasemapped
  | changesWhenLowercased
  | changesWhenTitlecased
  | changesWhenUppercased
  | dash
  | defaultIgnorable
  | deprecated
  | diacritic
  | emoji
  | emojiComponent
  | emojiModifier
  | emojiModifierBase
  | emojiPresentation
  | extendedPictographic
  | extender
  | graphemeBase
  | graphemeExtend
  | graphemeLink
  | hexDigit
  | hyphen
  | idContinue
  | idStart
  | idMathContinue
  | idMathStart
  | ideographic
  | idsBinaryOperator
  | idsTernaryOperator
  | idsUnaryOperator
  | joinControl
  | logicalOrderException
  | lowercase
  | math
  | modifierCombiningMark
  | noncharacter
  | otherAlphabetic
  | otherDefaultIgnorable
  | otherGraphemeExtend
  | otherIdContinue
  | otherIdStart
  | otherLowercase
  | otherMath
  | otherUppercase
  | patternSyntax
  | patternBlank
  | prependedMark
  | quotationMark
  | radical
  | regionalIndicator
  | sentenceTerminal
  | softDotted
  | terminalPunctuation
  | unifiedIdeograph
  | uppercase
  | variationSelector
  | blank
  | xidContinue
  | xidStart
deriving DecidableEq, Repr

namespace Property

/-- All properties. -/
def all : List Property :=
  [
   alphabetic, asciiHexDigit, bidiControl, caseIgnorable, cased, changesWhenCasefolded,
   changesWhenCasemapped, changesWhenLowercased, changesWhenTitlecased, changesWhenUppercased,
   dash, defaultIgnorable, deprecated, diacritic, emoji, emojiComponent, emojiModifier,
   emojiModifierBase, emojiPresentation, extendedPictographic, extender, graphemeBase,
   graphemeExtend, graphemeLink, hexDigit, hyphen, idContinue, idStart, idMathContinue,
   idMathStart, ideographic, idsBinaryOperator, idsTernaryOperator, idsUnaryOperator, joinControl,
   logicalOrderException, lowercase, math, modifierCombiningMark, noncharacter, otherAlphabetic,
   otherDefaultIgnorable, otherGraphemeExtend, otherIdContinue, otherIdStart, otherLowercase,
   otherMath, otherUppercase, patternSyntax, patternBlank, prependedMark, quotationMark, radical,
   regionalIndicator, sentenceTerminal, softDotted, terminalPunctuation, unifiedIdeograph,
   uppercase, variationSelector, blank, xidContinue, xidStart]

/-- The names of a property, in small letters without blanks. -/
def names : Property → List String
  | alphabetic => ["alpha", "alphabetic"]
  | asciiHexDigit => ["ahex", "asciihexdigit"]
  | bidiControl => ["bidic", "bidicontrol"]
  | caseIgnorable => ["ci", "caseignorable"]
  | cased => ["cased"]
  | changesWhenCasefolded => ["cwcf", "changeswhencasefolded"]
  | changesWhenCasemapped => ["cwcm", "changeswhencasemapped"]
  | changesWhenLowercased => ["cwl", "changeswhenlowercased"]
  | changesWhenTitlecased => ["cwt", "changeswhentitlecased"]
  | changesWhenUppercased => ["cwu", "changeswhenuppercased"]
  | dash => ["dash"]
  | defaultIgnorable => ["di", "defaultignorablecodepoint"]
  | deprecated => ["dep", "deprecated"]
  | diacritic => ["dia", "diacritic"]
  | emoji => ["emoji"]
  | emojiComponent => ["ecomp", "emojicomponent"]
  | emojiModifier => ["emod", "emojimodifier"]
  | emojiModifierBase => ["ebase", "emojimodifierbase"]
  | emojiPresentation => ["epres", "emojipresentation"]
  | extendedPictographic => ["extpict", "extendedpictographic"]
  | extender => ["ext", "extender"]
  | graphemeBase => ["grbase", "graphemebase"]
  | graphemeExtend => ["grext", "graphemeextend"]
  | graphemeLink => ["grlink", "graphemelink"]
  | hexDigit => ["hex", "hexdigit"]
  | hyphen => ["hyphen"]
  | idContinue => ["idc", "idcontinue"]
  | idStart => ["ids", "idstart"]
  | idMathContinue => ["idcompatmathcontinue"]
  | idMathStart => ["idcompatmathstart"]
  | ideographic => ["ideo", "ideographic"]
  | idsBinaryOperator => ["idsb", "idsbinaryoperator"]
  | idsTernaryOperator => ["idst", "idstrinaryoperator"]
  | idsUnaryOperator => ["idsu", "idsunaryoperator"]
  | joinControl => ["joinc", "joincontrol"]
  | logicalOrderException => ["loe", "logicalorderexception"]
  | lowercase => ["lower", "lowercase"]
  | math => ["math"]
  | modifierCombiningMark => ["mcm", "modifiercombiningmark"]
  | noncharacter => ["nchar", "noncharactercodepoint"]
  | otherAlphabetic => ["oalpha", "otheralphabetic"]
  | otherDefaultIgnorable => ["odi", "otherdefaultignorablecodepoint"]
  | otherGraphemeExtend => ["ogrext", "othergraphemeextend"]
  | otherIdContinue => ["oidc", "otheridcontinue"]
  | otherIdStart => ["oids", "otheridstart"]
  | otherLowercase => ["olower", "otherlowercase"]
  | otherMath => ["omath", "othermath"]
  | otherUppercase => ["oupper", "otheruppercase"]
  | patternSyntax => ["patsyn", "patternsyntax"]
  | patternBlank => ["patws", "patternwhitespace"]
  | prependedMark => ["pcm", "prependedconcatenationmark"]
  | quotationMark => ["qmark", "quotationmark"]
  | radical => ["radical"]
  | regionalIndicator => ["ri", "regionalindicator"]
  | sentenceTerminal => ["sterm", "sentenceterminal"]
  | softDotted => ["sd", "softdotted"]
  | terminalPunctuation => ["term", "terminalpunctuation"]
  | unifiedIdeograph => ["uideo", "unifiedideograph"]
  | uppercase => ["upper", "uppercase"]
  | variationSelector => ["vs", "variationselector"]
  | blank => ["space", "wspace", "whitespace"]
  | xidContinue => ["xidc", "xidcontinue"]
  | xidStart => ["xids", "xidstart"]

/-- The characters that have a property. -/
def chars : Property → CharSet
  | alphabetic => letterChars
  | asciiHexDigit => ⟨asciiHexRanges⟩
  | bidiControl => ⟨directionRanges⟩
  | caseIgnorable =>
    CharSet.unions [WordBreak.midLetter.chars, WordBreak.midNumLet.chars,
      WordBreak.singleQuote.chars, Category.charsOf
        [.nonspacingMark, .enclosingMark, .format, .modifierLetter, .modifierSymbol]]
  | cased => casedChars
  | changesWhenCasefolded => changedByFolding
  | changesWhenCasemapped =>
    CharSet.unions [changedByLower, changedByUpper, changedByTitle]
  | changesWhenLowercased => changedByLower
  | changesWhenTitlecased => changedByTitle
  | changesWhenUppercased => changedByUpper
  | dash => ⟨dashLikeRanges⟩
  | defaultIgnorable => ignorableChars
  | deprecated => ⟨deprecatedRanges⟩
  | diacritic => ⟨diacriticRanges⟩
  | emoji => ⟨emojiRanges⟩
  | emojiComponent => ⟨emojiComponentRanges⟩
  | emojiModifier => ⟨skinToneRanges⟩
  | emojiModifierBase => ⟨emojiBaseRanges⟩
  | emojiPresentation => ⟨emojiPresentationRanges⟩
  | extendedPictographic => ⟨pictographRanges⟩
  | extender => ⟨extenderRanges⟩
  | graphemeBase => baseChars
  | graphemeExtend => extendChars
  | graphemeLink => ⟨linkRanges⟩
  | hexDigit => ⟨hexRanges⟩
  | hyphen => ⟨hyphenationRanges⟩
  | idContinue => identifierContinue
  | idStart => identifierStart
  | idMathContinue => ⟨mathContinueRanges⟩
  | idMathStart => ⟨mathStartRanges⟩
  | ideographic => ⟨ideographRanges⟩
  | idsBinaryOperator => ⟨binaryOperatorRanges⟩
  | idsTernaryOperator => ⟨ternaryOperatorRanges⟩
  | idsUnaryOperator => ⟨unaryOperatorRanges⟩
  | joinControl => ⟨joinerRanges⟩
  | logicalOrderException => ⟨visualOrderRanges⟩
  | lowercase => lowerChars
  | math => Category.mathSymbol.chars.union ⟨otherMathRanges⟩
  | modifierCombiningMark => ⟨modifierMarkRanges⟩
  | noncharacter => ⟨noncharacterRanges⟩
  | otherAlphabetic =>
    letterChars.diff (Category.charsOf (.letterNumber :: Category.letters))
  | otherDefaultIgnorable => ⟨otherIgnorableRanges⟩
  | otherGraphemeExtend => ⟨otherExtendRanges⟩
  | otherIdContinue => ⟨otherContinueRanges⟩
  | otherIdStart => ⟨otherStartRanges⟩
  | otherLowercase => ⟨otherLowerRanges⟩
  | otherMath => ⟨otherMathRanges⟩
  | otherUppercase => ⟨otherUpperRanges⟩
  | patternSyntax => ⟨patternSyntaxRanges⟩
  | patternBlank => ⟨patternBlankRanges⟩
  | prependedMark => ⟨prependedRanges⟩
  | quotationMark => ⟨quotationRanges⟩
  | radical => ⟨radicalRanges⟩
  | regionalIndicator => ⟨regionLetterRanges⟩
  | sentenceTerminal => ⟨sentenceEndRanges⟩
  | softDotted => ⟨softDottedRanges⟩
  | terminalPunctuation => ⟨terminalRanges⟩
  | unifiedIdeograph => ⟨unifiedIdeographRanges⟩
  | uppercase => upperChars
  | variationSelector => ⟨variationRanges⟩
  | blank => blankChars
  | xidContinue => stableContinue
  | xidStart => stableStart

/-- The property that goes by a name. -/
def named? (key : String) : Option Property := all.find? fun p => p.names.contains key

end Property

/-- A name as it is compared. -/
def propertyKey (t : Text) : String :=
  let hasIs := (t.take 2).map Char.toLower == ['i', 's']
  let key := ((if hasIs then t.drop 2 else t).filter fun c =>
    c.toNat < 0x80 && c != ' ' && c != '_' && c != '-').map Char.toLower
  -- the short name of a property of its own, not of the category `C`
  if hasIs && key == ['c'] then "isc" else String.ofList key

/-- The characters of the categories that go by a name, or of one of the sets
that are named like categories. -/
def categoryChars? (key : String) : Option CharSet :=
  match key with
  | "any" => some CharSet.all
  | "ascii" => some CharSet.ascii
  | "assigned" => some Category.unassigned.chars.complement
  | _ => (Category.named? key).map Category.charsOf

/-- The characters that a name asks for. -/
def namedChars? (name : Text) : Option CharSet :=
  let key := propertyKey name
  (Property.named? key).map Property.chars <|> categoryChars? key <|> scriptChars? key

/-- The characters for which a property has a value. -/
def valuedChars? (property value : Text) : Option CharSet :=
  let key := propertyKey value
  match propertyKey property with
  | "gc" | "generalcategory" => categoryChars? key
  | "sc" | "script" => scriptChars? key
  | "scx" | "scriptextensions" => charsUsedBy? key
  | "age" => charsOfAge? key
  | "gcb" | "graphemeclusterbreak" =>
    (ClusterBreak.all.find? fun b => b.names.contains key).map ClusterBreak.chars
  | "wb" | "wordbreak" => (WordBreak.all.find? fun b => b.names.contains key).map WordBreak.chars
  | "sb" | "sentencebreak" =>
    (SentenceBreak.all.find? fun b => b.names.contains key).map SentenceBreak.chars
  | _ => none

end Gedcom.Text
