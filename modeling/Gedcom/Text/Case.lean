import Gedcom.Text.CaseFold
import Gedcom.Text.Category
import Gedcom.Text.Upper

/-!
# Upper and lower case as properties

Case belongs to letters, and also to some characters that only look like
letters, such as letters in circles and Roman numerals.  A character changes
under a case mapping when its image is another character or several characters;
this is read off the tables of upper case and of case variants.
-/
namespace Gedcom.Text

/-- The ranges of the lower-case characters that are no lower-case letters. -/
def otherLowerRanges : List (Nat × Nat) :=
  [
   (0xaa, 0xaa), (0xba, 0xba), (0x2b0, 0x2b8), (0x2c0, 0x2c1), (0x2e0, 0x2e4), (0x345, 0x345),
   (0x37a, 0x37a), (0x10fc, 0x10fc), (0x1d2c, 0x1d6a), (0x1d78, 0x1d78), (0x1d9b, 0x1dbf),
   (0x2071, 0x2071), (0x207f, 0x207f), (0x2090, 0x209c), (0x2170, 0x217f), (0x24d0, 0x24e9),
   (0x2c7c, 0x2c7d), (0xa69c, 0xa69d), (0xa770, 0xa770), (0xa7f2, 0xa7f4), (0xa7f8, 0xa7f9),
   (0xab5c, 0xab5f), (0xab69, 0xab69), (0x10780, 0x10780), (0x10783, 0x10785), (0x10787, 0x107b0),
   (0x107b2, 0x107ba), (0x1e030, 0x1e06d)]

/-- The ranges of the upper-case characters that are no upper-case letters. -/
def otherUpperRanges : List (Nat × Nat) :=
  [
   (0x2160, 0x216f), (0x24b6, 0x24cf), (0x1f130, 0x1f149), (0x1f150, 0x1f169), (0x1f170, 0x1f189)]

/-- The ranges of the characters whose dot gives way to an accent above. -/
def softDottedRanges : List (Nat × Nat) :=
  [
   (0x69, 0x6a), (0x12f, 0x12f), (0x249, 0x249), (0x268, 0x268), (0x29d, 0x29d), (0x2b2, 0x2b2),
   (0x3f3, 0x3f3), (0x456, 0x456), (0x458, 0x458), (0x1d62, 0x1d62), (0x1d96, 0x1d96),
   (0x1da4, 0x1da4), (0x1da8, 0x1da8), (0x1e2d, 0x1e2d), (0x1ecb, 0x1ecb), (0x2071, 0x2071),
   (0x2148, 0x2149), (0x2c7c, 0x2c7c), (0x1d422, 0x1d423), (0x1d456, 0x1d457), (0x1d48a, 0x1d48b),
   (0x1d4be, 0x1d4bf), (0x1d4f2, 0x1d4f3), (0x1d526, 0x1d527), (0x1d55a, 0x1d55b),
   (0x1d58e, 0x1d58f), (0x1d5c2, 0x1d5c3), (0x1d5f6, 0x1d5f7), (0x1d62a, 0x1d62b),
   (0x1d65e, 0x1d65f), (0x1d692, 0x1d693), (0x1df1a, 0x1df1a), (0x1e04c, 0x1e04d),
   (0x1e068, 0x1e068)]

/-- The ranges of the characters that case folding changes and lower case does not. -/
def foldedOnlyRanges : List (Nat × Nat) :=
  [
   (0xb5, 0xb5), (0xdf, 0xdf), (0x149, 0x149), (0x17f, 0x17f), (0x345, 0x345), (0x3c2, 0x3c2),
   (0x3d0, 0x3d1), (0x3d5, 0x3d6), (0x3f0, 0x3f1), (0x3f5, 0x3f5), (0x587, 0x587),
   (0x13f8, 0x13fd), (0x1c80, 0x1c88), (0x1e9a, 0x1e9b), (0x1f80, 0x1f87), (0x1f90, 0x1f97),
   (0x1fa0, 0x1fa7), (0x1fb2, 0x1fb4), (0x1fb7, 0x1fb7), (0x1fc2, 0x1fc4), (0x1fc7, 0x1fc7),
   (0x1ff2, 0x1ff4), (0x1ff7, 0x1ff7), (0xab70, 0xabbf), (0xfb00, 0xfb06), (0xfb13, 0xfb17)]

/-- The lower-case characters. -/
def lowerChars : CharSet := Category.lowercaseLetter.chars.union ⟨otherLowerRanges⟩

/-- The upper-case characters. -/
def upperChars : CharSet := Category.uppercaseLetter.chars.union ⟨otherUpperRanges⟩

/-- The characters that have a case. -/
def casedChars : CharSet :=
  CharSet.unions [lowerChars, upperChars, Category.titlecaseLetter.chars]

/-- The capitals of the Cherokee script, which case folding keeps. -/
def cherokeeCapitals : CharSet := ⟨[(0x13a0, 0x13f5)]⟩

/-- The small letters of the Georgian script, which stay small in titles. -/
def georgianSmall : CharSet := ⟨[(0x10d0, 0x10fa), (0x10fd, 0x10ff)]⟩

/-- The capitals of two letters in one character, which lose their second
capital in titles. -/
def doubleCapitals : CharSet :=
  ⟨[(0x1c4, 0x1c4), (0x1c7, 0x1c7), (0x1ca, 0x1ca), (0x1f1, 0x1f1)]⟩

/-- The ranges of the code points of a run from `first` to `last`. -/
def runRanges (first last step : Nat) : List (Nat × Nat) :=
  if step = 1 then [(first, last)]
  else (List.range ((last - first) / step + 1)).map fun i => (first + i * step, first + i * step)

/-- The characters that upper case changes. -/
def changedByUpper : CharSet :=
  let runs := upperRuns.flatMap fun (first, last, step, _) => runRanges first last step
  (CharSet.ofRanges runs).union (CharSet.ofRanges (upperExpansions.map fun (n, _) => (n, n)))

/-- The characters that title case changes. -/
def changedByTitle : CharSet :=
  (changedByUpper.diff (Category.titlecaseLetter.chars.union georgianSmall)).union doubleCapitals

/-- The characters that have case variants. -/
def variedChars : CharSet :=
  let pairs := casePairs.map fun (first, last, step, partner) =>
    (CharSet.mk (runRanges first last step)).union
      ⟨runRanges partner (partner + (last - first)) step⟩
  (CharSet.unions pairs).union (CharSet.ofRanges (caseFamilies.flatten.map fun n => (n, n)))

/-- The characters that lower case changes: those with variants that are not
lower-case themselves, and the dotted capital I. -/
def changedByLower : CharSet :=
  (variedChars.diff (lowerChars.union ⟨[(0x345, 0x345)]⟩)).union ⟨[(0x130, 0x130)]⟩

/-- The characters that case folding changes. -/
def changedByFolding : CharSet :=
  (changedByLower.diff cherokeeCapitals).union ⟨foldedOnlyRanges⟩

end Gedcom.Text
