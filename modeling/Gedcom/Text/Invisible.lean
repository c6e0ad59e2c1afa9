import Gedcom.Text.Mark

/-!
# Characters without a shape

Controls of direction, joiners, selectors of variants, code points that are
never characters, and what a display may leave out when it does not know it.
-/
namespace Gedcom.Text

/-- The ranges of the controls of writing direction. -/
def directionRanges : List (Nat × Nat) :=
  [
   (0x61c, 0x61c), (0x200e, 0x200f), (0x202a, 0x202e), (0x2066, 0x2069)]

/-- The ranges of the selectors of variants. -/
def variationRanges : List (Nat × Nat) :=
  [
   (0x180b, 0x180d), (0x180f, 0x180f), (0xfe00, 0xfe0f), (0xe0100, 0xe01ef)]

/-- The ranges of the characters that should not be used any more. -/
def deprecatedRanges : List (Nat × Nat) :=
  [
   (0x149, 0x149), (0x673, 0x673), (0xf77, 0xf77), (0xf79, 0xf79), (0x17a3, 0x17a4),
   (0x206a, 0x206f), (0x2329, 0x232a), (0xe0001, 0xe0001)]

/-- The ranges of the characters that are left out although they control nothing. -/
def otherIgnorableRanges : List (Nat × Nat) :=
  [
   (0x34f, 0x34f), (0x115f, 0x1160), (0x17b4, 0x17b5), (0x2065, 0x2065), (0x3164, 0x3164),
   (0xffa0, 0xffa0), (0xfff0, 0xfff8), (0xe0000, 0xe0000), (0xe0002, 0xe001f), (0xe0080, 0xe00ff),
   (0xe01f0, 0xe0fff)]

/-- The ranges of the code points that are never characters. -/
def noncharacterRanges : List (Nat × Nat) :=
  (0xfdd0, 0xfdef) :: (List.range 17).map fun plane =>
    (plane * 0x10000 + 0xfffe, plane * 0x10000 + 0xffff)

/-- The format characters that are shown: annotations and Egyptian joiners. -/
def shownFormatRanges : List (Nat × Nat) := [(0xfff9, 0xfffb), (0x13430, 0x13440)]

/-- The characters that a display may leave out. -/
def ignorableChars : CharSet :=
  (CharSet.unions [⟨otherIgnorableRanges⟩, Category.format.chars, ⟨variationRanges⟩]).diff
    ((CharSet.mk shownFormatRanges).union ⟨prependedRanges⟩)

end Gedcom.Text
