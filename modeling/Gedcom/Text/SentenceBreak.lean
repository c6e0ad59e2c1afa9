import Gedcom.Text.Blank
import Gedcom.Text.Case
import Gedcom.Text.Punctuation
import Gedcom.Text.WordBreak

/-!
# Boundaries between sentences

Where a sentence ends follows from a class that every character has; the
characters of no listed class say nothing about it.
-/
namespace Gedcom.Text

/-- The classes that decide where a sentence ends. -/
inductive SentenceBreak
  | carriageReturn
  | lineFeed
  | separator
  | extend
  | format
  | blank
  | lower
  | upper
  | otherLetter
  | numeric
  | fullStop
  | terminator
  | continuation
  | close
deriving DecidableEq, Repr

/-- The ranges of the marks after which a sentence goes on. -/
def continuationRanges : List (Nat × Nat) :=
  [
   (0x2c, 0x2d), (0x3a, 0x3b), (0x37e, 0x37e), (0x55d, 0x55d), (0x60c, 0x60d), (0x7f8, 0x7f8),
   (0x1802, 0x1802), (0x1808, 0x1808), (0x2013, 0x2014), (0x3001, 0x3001), (0xfe10, 0xfe11),
   (0xfe13, 0xfe14), (0xfe31, 0xfe32), (0xfe50, 0xfe51), (0xfe54, 0xfe55), (0xfe58, 0xfe58),
   (0xfe63, 0xfe63), (0xff0c, 0xff0d), (0xff1a, 0xff1b), (0xff64, 0xff64)]

/-- The ranges of the full stops, which need not end a sentence. -/
def fullStopRanges : List (Nat × Nat) :=
  [
   (0x2e, 0x2e), (0x2024, 0x2024), (0xfe52, 0xfe52), (0xff0e, 0xff0e)]

/-- The ranges of the quotation marks that neither open nor close. -/
def plainQuoteRanges : List (Nat × Nat) :=
  [
   (0x22, 0x22), (0x27, 0x27), (0x275b, 0x2760), (0x2e00, 0x2e01), (0x2e06, 0x2e08),
   (0x2e0b, 0x2e0b), (0x1f676, 0x1f678)]

namespace SentenceBreak

/-- All classes. -/
def all : List SentenceBreak :=
  [carriageReturn, lineFeed, separator, extend, format, blank, lower, upper, otherLetter,
    numeric, fullStop, terminator, continuation, close]

/-- The names of a class, in small letters without blanks. -/
def names : SentenceBreak → List String
  | carriageReturn => ["cr"]
  | lineFeed => ["lf"]
  | separator => ["se", "sep"]
  | extend => ["ex", "extend"]
  | format => ["fo", "format"]
  | blank => ["sp"]
  | lower => ["lo", "lower"]
  | upper => ["up", "upper"]
  | otherLetter => ["le", "oletter"]
  | numeric => ["nu", "numeric"]
  | fullStop => ["at", "aterm"]
  | terminator => ["st", "sterm"]
  | continuation => ["sc", "scontinue"]
  | close => ["cl", "close"]

/-- The characters that a sentence is extended by. -/
def extendedChars : CharSet :=
  CharSet.unions [extendChars, Category.spacingMark.chars, .single '\u200d']

/-- The lower-case characters, Georgian apart. -/
def lowerLetters : CharSet := lowerChars.diff (extendChars.union georgianSmall)

/-- The upper-case and title-case characters, Georgian apart. -/
def upperLetters : CharSet :=
  (upperChars.union Category.titlecaseLetter.chars).diff ⟨[(0x1c90, 0x1cba), (0x1cbd, 0x1cbf)]⟩

/-- The characters of a class. -/
def chars : SentenceBreak → CharSet
  | carriageReturn => .single '\r'
  | lineFeed => .single '\n'
  | separator => ⟨[(0x85, 0x85), (0x2028, 0x2029)]⟩
  | extend => extendedChars
  | format =>
    Category.format.chars.diff <|
      CharSet.unions [⟨joinerRanges⟩, extendChars,
        (CharSet.mk prependedRanges).diff ⟨[(0x70f, 0x70f)]⟩]
  | blank =>
    blankChars.diff ⟨[(0xa, 0xa), (0xd, 0xd), (0x85, 0x85), (0x2028, 0x2029)]⟩
  | lower => lowerLetters
  | upper => upperLetters
  | otherLetter =>
    (letterChars.union (.single '\u05f3')).diff
      (CharSet.unions [lowerLetters, upperLetters, extendedChars])
  | numeric => numberChars
  | fullStop => ⟨fullStopRanges⟩
  | terminator => (CharSet.mk sentenceEndRanges).diff ⟨fullStopRanges⟩
  | continuation => ⟨continuationRanges⟩
  | close =>
    (Category.charsOf [.openPunctuation, .closePunctuation, .initialPunctuation,
      .finalPunctuation]).union ⟨plainQuoteRanges⟩

end SentenceBreak
end Gedcom.Text
