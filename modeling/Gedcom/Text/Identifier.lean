import Gedcom.Text.Category
import Gedcom.Text.Punctuation

/-!
# Identifiers

The characters that an identifier may begin with and go on with.  An identifier
that stays one under every normal form avoids a few of them.
-/
namespace Gedcom.Text

/-- The ranges of the beginnings of identifiers that are no letters any more. -/
def otherStartRanges : List (Nat × Nat) :=
  [
   (0x1885, 0x1886), (0x2118, 0x2118), (0x212e, 0x212e), (0x309b, 0x309c)]

/-- The ranges of the parts of identifiers that no category covers. -/
def otherContinueRanges : List (Nat × Nat) :=
  [
   (0xb7, 0xb7), (0x387, 0x387), (0x1369, 0x1371), (0x19da, 0x19da), (0x200c, 0x200d),
   (0x30fb, 0x30fb), (0xff65, 0xff65)]

/-- The ranges of the symbols that identifiers of mathematics may begin with. -/
def mathStartRanges : List (Nat × Nat) :=
  [
   (0x2202, 0x2202), (0x2207, 0x2207), (0x221e, 0x221e), (0x1d6c1, 0x1d6c1), (0x1d6db, 0x1d6db),
   (0x1d6fb, 0x1d6fb), (0x1d715, 0x1d715), (0x1d735, 0x1d735), (0x1d74f, 0x1d74f),
   (0x1d76f, 0x1d76f), (0x1d789, 0x1d789), (0x1d7a9, 0x1d7a9), (0x1d7c3, 0x1d7c3)]

/-- The ranges of the symbols that they may go on with. -/
def mathContinueRanges : List (Nat × Nat) :=
  [
   (0xb2, 0xb3), (0xb9, 0xb9), (0x2070, 0x2070), (0x2074, 0x207e), (0x2080, 0x208e),
   (0x2202, 0x2202), (0x2207, 0x2207), (0x221e, 0x221e), (0x1d6c1, 0x1d6c1), (0x1d6db, 0x1d6db),
   (0x1d6fb, 0x1d6fb), (0x1d715, 0x1d715), (0x1d735, 0x1d735), (0x1d74f, 0x1d74f),
   (0x1d76f, 0x1d76f), (0x1d789, 0x1d789), (0x1d7a9, 0x1d7a9), (0x1d7c3, 0x1d7c3)]

/-- The ranges of the characters that a normal form turns into no part of an identifier. -/
def unstableRanges : List (Nat × Nat) :=
  [
   (0x37a, 0x37a), (0x309b, 0x309c), (0xfc5e, 0xfc63), (0xfdfa, 0xfdfb), (0xfe70, 0xfe70),
   (0xfe72, 0xfe72), (0xfe74, 0xfe74), (0xfe76, 0xfe76), (0xfe78, 0xfe78), (0xfe7a, 0xfe7a),
   (0xfe7c, 0xfe7c), (0xfe7e, 0xfe7e)]

/-- The ranges of those that are turned into no beginning of one. -/
def unstableStartRanges : List (Nat × Nat) := [(0xe33, 0xe33), (0xeb3, 0xeb3), (0xff9e, 0xff9f)]

/-- The characters that patterns use for themselves. -/
def patternChars : CharSet := (CharSet.mk patternSyntaxRanges).union ⟨patternBlankRanges⟩

/-- The characters that an identifier begins with. -/
def identifierStart : CharSet :=
  ((Category.charsOf (.letterNumber :: Category.letters)).union ⟨otherStartRanges⟩).diff
    patternChars

/-- The characters that an identifier goes on with. -/
def identifierContinue : CharSet :=
  (CharSet.unions [identifierStart, ⟨otherContinueRanges⟩,
    Category.charsOf [.nonspacingMark, .spacingMark, .decimalNumber, .connectorPunctuation]]).diff
      patternChars

/-- The characters that an identifier begins with under every normal form. -/
def stableStart : CharSet :=
  identifierStart.diff ((CharSet.mk unstableRanges).union ⟨unstableStartRanges⟩)

/-- The characters that an identifier goes on with under every normal form. -/
def stableContinue : CharSet := identifierContinue.diff ⟨unstableRanges⟩

end Gedcom.Text
