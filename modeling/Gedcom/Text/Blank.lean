import Gedcom.CharSet

/-!
# Blanks

The blank characters (property White_Space of the Unicode standard), and the
operations on texts that look at them: trimming, and cutting into words.
-/
namespace Gedcom.Text

/-- The ranges of the blank characters. -/
def blankRanges : List (Nat × Nat) :=
  [(0x9, 0xd), (0x20, 0x20), (0x85, 0x85), (0xa0, 0xa0), (0x1680, 0x1680), (0x2000, 0x200a),
   (0x2028, 0x2029), (0x202f, 0x202f), (0x205f, 0x205f), (0x3000, 0x3000)]

/-- The blank characters. -/
def blankChars : CharSet := ⟨blankRanges⟩

/-- Whether a character is blank. -/
def isBlank (c : Char) : Bool := blankChars.contains c

/-- A text without the blanks at its beginning. -/
def trimLeft (t : Text) : Text := t.dropWhile isBlank

/-- A text without the blanks at its end. -/
def trimRight (t : Text) : Text := (t.reverse.dropWhile isBlank).reverse

/-- A text without the blanks at its two ends. -/
def trim (t : Text) : Text := trimRight (trimLeft t)

/-- The words of a text: its maximal pieces without blanks. -/
def words (t : Text) : List Text := fields isBlank t

end Gedcom.Text
