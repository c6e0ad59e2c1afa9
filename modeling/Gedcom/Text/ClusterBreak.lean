import Gedcom.Text.Emoji
import Gedcom.Text.Invisible

/-!
# Boundaries between visible signs

A visible sign can take several characters.  Where one ends follows from a class
that every character has; the characters of no listed class stand alone.
-/
namespace Gedcom.Text

/-- The classes that decide where a visible sign ends. -/
inductive ClusterBreak
  | carriageReturn
  | lineFeed
  | control
  | extend
  | joiner
  | prepend
  | spacingMark
  | regionLetter
  | leadingJamo
  | vowelJamo
  | trailingJamo
  | openSyllable
  | closedSyllable
deriving DecidableEq, Repr

/-- The ranges of the letters that are written before the sign they belong to. -/
def prefixedLetterRanges : List (Nat × Nat) :=
  [
   (0xd4e, 0xd4e), (0x111c2, 0x111c3), (0x113d1, 0x113d1), (0x1193f, 0x1193f), (0x11941, 0x11941),
   (0x11a3a, 0x11a3a), (0x11a84, 0x11a89), (0x11d46, 0x11d46), (0x11f02, 0x11f02)]

/-- The ranges of the spacing marks that stand alone. -/
def looseMarkRanges : List (Nat × Nat) :=
  [
   (0x102b, 0x102c), (0x1038, 0x1038), (0x1062, 0x1064), (0x1067, 0x106d), (0x1083, 0x1083),
   (0x1087, 0x108c), (0x108f, 0x108f), (0x109a, 0x109c), (0x1a61, 0x1a61), (0x1a63, 0x1a64),
   (0xaa7b, 0xaa7b), (0xaa7d, 0xaa7d), (0x11720, 0x11721)]

/-- The syllables that end in a vowel: every 28th. -/
def openSyllableRanges : List (Nat × Nat) :=
  (List.range 399).map fun i => (0xac00 + 28 * i, 0xac00 + 28 * i)

/-- All syllables composed of jamo. -/
def syllableRanges : List (Nat × Nat) := [(0xac00, 0xd7a3)]

namespace ClusterBreak

/-- All classes. -/
def all : List ClusterBreak :=
  [carriageReturn, lineFeed, control, extend, joiner, prepend, spacingMark, regionLetter,
    leadingJamo, vowelJamo, trailingJamo, openSyllable, closedSyllable]

/-- The names of a class, in small letters without blanks. -/
def names : ClusterBreak → List String
  | carriageReturn => ["cr"]
  | lineFeed => ["lf"]
  | control => ["cn", "control"]
  | extend => ["ex", "extend"]
  | joiner => ["zwj"]
  | prepend => ["pp", "prepend"]
  | spacingMark => ["sm", "spacingmark"]
  | regionLetter => ["ri", "regionalindicator"]
  | leadingJamo => ["l"]
  | vowelJamo => ["v"]
  | trailingJamo => ["t"]
  | openSyllable => ["lv"]
  | closedSyllable => ["lvt"]

/-- The characters of a class. -/
def chars : ClusterBreak → CharSet
  | carriageReturn => .single '\r'
  | lineFeed => .single '\n'
  | control =>
    (CharSet.unions [Category.charsOf [.lineSeparator, .paragraphSeparator, .control, .format],
      Category.unassigned.chars.inter ignorableChars]).diff
      (CharSet.unions [⟨prependedRanges⟩, extendChars, .ofText ['\n', '\r'],
        ⟨joinerRanges⟩])
  | extend => extendChars.union ⟨skinToneRanges⟩
  | joiner => .single '\u200d'
  | prepend => (CharSet.mk prependedRanges).union ⟨prefixedLetterRanges⟩
  | spacingMark =>
    (Category.spacingMark.chars.union ⟨[(0xe33, 0xe33), (0xeb3, 0xeb3)]⟩).diff
      (extendChars.union ⟨looseMarkRanges⟩)
  | regionLetter => ⟨regionLetterRanges⟩
  | leadingJamo => ⟨[(0x1100, 0x115f), (0xa960, 0xa97c)]⟩
  | vowelJamo =>
    ⟨[(0x1160, 0x11a7), (0xd7b0, 0xd7c6), (0x16d63, 0x16d63), (0x16d67, 0x16d6a)]⟩
  | trailingJamo => ⟨[(0x11a8, 0x11ff), (0xd7cb, 0xd7fb)]⟩
  | openSyllable => ⟨openSyllableRanges⟩
  | closedSyllable => (CharSet.mk syllableRanges).diff ⟨openSyllableRanges⟩

end ClusterBreak
end Gedcom.Text
