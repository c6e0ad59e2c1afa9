import Gedcom.Text.Emoji
import Gedcom.Text.Ideograph
import Gedcom.Text.Mark
import Gedcom.Text.Script

/-!
# Boundaries between words

Where a word ends follows from a class that every character has; the characters
of no listed class are words of their own.
-/
namespace Gedcom.Text

/-- The classes that decide where a word ends. -/
inductive WordBreak
  | carriageReturn
  | lineFeed
  | newline
  | extend
  | joiner
  | format
  | katakana
  | hebrewLetter
  | letter
  | singleQuote
  | doubleQuote
  | midNumLet
  | midLetter
  | midNum
  | numeric
  | connector
  | regionLetter
  | blank
deriving DecidableEq, Repr

/-- The ranges of the characters of scripts that do not divide words, marks and letters. -/
def undividedRanges : List (Nat × Nat) :=
  [
   (0xe01, 0xe3a), (0xe40, 0xe4e), (0xe81, 0xe82), (0xe84, 0xe84), (0xe86, 0xe8a), (0xe8c, 0xea3),
   (0xea5, 0xea5), (0xea7, 0xebd), (0xec0, 0xec4), (0xec6, 0xec6), (0xec8, 0xece), (0xedc, 0xedf),
   (0x1000, 0x103f), (0x1050, 0x108f), (0x109a, 0x109f), (0x1780, 0x17d3), (0x17d7, 0x17d7),
   (0x17dc, 0x17dd), (0x1950, 0x196d), (0x1970, 0x1974), (0x1980, 0x19ab), (0x19b0, 0x19c9),
   (0x19da, 0x19da), (0x19de, 0x19df), (0x1a20, 0x1a5e), (0x1a60, 0x1a7c), (0x1aa0, 0x1aad),
   (0xa9e0, 0xa9ef), (0xa9fa, 0xa9fe), (0xaa60, 0xaac2), (0xaadb, 0xaadf), (0x11700, 0x1171a),
   (0x1171d, 0x1172b), (0x1173a, 0x1173b), (0x1173f, 0x11746)]

/-- The ranges of the characters that count as letters although they are not alphabetic. -/
def otherWordLetterRanges : List (Nat × Nat) :=
  [
   (0x2c2, 0x2c5), (0x2d2, 0x2d7), (0x2de, 0x2df), (0x2e5, 0x2eb), (0x2ed, 0x2ed), (0x2ef, 0x2ff),
   (0x55a, 0x55c), (0x55e, 0x55e), (0x58a, 0x58a), (0x5f3, 0x5f3), (0x70f, 0x70f),
   (0xa708, 0xa716), (0xa720, 0xa721), (0xa789, 0xa78a), (0xab5b, 0xab5b)]

/-- The ranges of the signs that several scripts share and that count as katakana. -/
def otherKatakanaRanges : List (Nat × Nat) :=
  [
   (0x3031, 0x3035), (0x309b, 0x309c), (0x30a0, 0x30a0), (0x30fc, 0x30fc), (0xff70, 0xff70)]

/-- The ranges of the signs that stand within numbers. -/
def midNumRanges : List (Nat × Nat) :=
  [
   (0x2c, 0x2c), (0x3b, 0x3b), (0x37e, 0x37e), (0x589, 0x589), (0x60c, 0x60d), (0x66c, 0x66c),
   (0x7f8, 0x7f8), (0x2044, 0x2044), (0xfe10, 0xfe10), (0xfe14, 0xfe14), (0xfe50, 0xfe50),
   (0xfe54, 0xfe54), (0xff0c, 0xff0c), (0xff1b, 0xff1b)]

/-- The ranges of the signs that stand within words. -/
def midLetterRanges : List (Nat × Nat) :=
  [
   (0x3a, 0x3a), (0xb7, 0xb7), (0x387, 0x387), (0x55f, 0x55f), (0x5f4, 0x5f4), (0x2027, 0x2027),
   (0xfe13, 0xfe13), (0xfe55, 0xfe55), (0xff1a, 0xff1a)]

/-- The ranges of the signs that stand within words and within numbers. -/
def midNumLetRanges : List (Nat × Nat) :=
  [
   (0x2e, 0x2e), (0x2018, 0x2019), (0x2024, 0x2024), (0xfe52, 0xfe52), (0xff07, 0xff07),
   (0xff0e, 0xff0e)]

/-- The digits of numbers, with the decimal and the thousands mark that are
written among Arabic digits. -/
def numberChars : CharSet :=
  CharSet.unions [digitChars, ⟨[(0x66b, 0x66c)]⟩,
    (CharSet.mk prependedRanges).diff ⟨[(0x70f, 0x70f)]⟩]

/-- The characters that extend a word or a sentence. -/
def spacingExtendChars : CharSet :=
  CharSet.unions [extendChars, Category.spacingMark.chars, ⟨skinToneRanges⟩]

/-- The characters of a script, none for a name of no script. -/
def charsOfScript (name : String) : CharSet := (scriptChars? name).getD .empty

namespace WordBreak

/-- All classes. -/
def all : List WordBreak :=
  [carriageReturn, lineFeed, newline, extend, joiner, format, katakana, hebrewLetter, letter,
    singleQuote, doubleQuote, midNumLet, midLetter, midNum, numeric, connector, regionLetter,
    blank]

/-- The names of a class, in small letters without blanks. -/
def names : WordBreak → List String
  | carriageReturn => ["cr"]
  | lineFeed => ["lf"]
  | newline => ["nl", "newline"]
  | extend => ["extend"]
  | joiner => ["zwj"]
  | format => ["fo", "format"]
  | katakana => ["ka", "katakana"]
  | hebrewLetter => ["hl", "hebrewletter"]
  | letter => ["le", "aletter"]
  | singleQuote => ["sq", "singlequote"]
  | doubleQuote => ["dq", "doublequote"]
  | midNumLet => ["mb", "midnumlet"]
  | midLetter => ["ml", "midletter"]
  | midNum => ["mn", "midnum"]
  | numeric => ["nu", "numeric"]
  | connector => ["ex", "extendnumlet"]
  | regionLetter => ["ri", "regionalindicator"]
  | blank => ["wsegspace"]

/-- The katakana. -/
def katakanaChars : CharSet := (charsOfScript "kana").union ⟨otherKatakanaRanges⟩

/-- The letters of the Hebrew script. -/
def hebrewChars : CharSet := (charsOfScript "hebr").inter Category.otherLetter.chars

/-- The characters of a class. -/
def chars : WordBreak → CharSet
  | carriageReturn => .single '\r'
  | lineFeed => .single '\n'
  | newline => ⟨[(0xb, 0xc), (0x85, 0x85), (0x2028, 0x2029)]⟩
  | extend => spacingExtendChars
  | joiner => .single '\u200d'
  | format =>
    Category.format.chars.diff
      (CharSet.unions [⟨joinerRanges⟩, ⟨[(0x200b, 0x200b)]⟩, ⟨prependedRanges⟩, extendChars])
  | katakana => katakanaChars
  | hebrewLetter => hebrewChars
  | letter =>
    (letterChars.union ⟨otherWordLetterRanges⟩).diff
      (CharSet.unions [⟨ideographRanges⟩, katakanaChars, ⟨undividedRanges⟩, charsOfScript "hira",
        spacingExtendChars, hebrewChars])
  | singleQuote => .single '\''
  | doubleQuote => .single '"'
  | midNumLet => ⟨midNumLetRanges⟩
  | midLetter => ⟨midLetterRanges⟩
  | midNum => ⟨midNumRanges⟩
  | numeric => numberChars.diff ⟨[(0x66c, 0x66c)]⟩
  | connector => Category.connectorPunctuation.chars.union (.single '\u202f')
  | regionLetter => ⟨regionLetterRanges⟩
  | blank =>
    ⟨[(0x20, 0x20), (0x1680, 0x1680), (0x2000, 0x2006), (0x2008, 0x200a), (0x205f, 0x205f),
      (0x3000, 0x3000)]⟩

end WordBreak
end Gedcom.Text
