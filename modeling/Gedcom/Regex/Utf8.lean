import Gedcom.CharSet

/-!
# Sequences of bytes

In UTF-8 a character is written as one to four bytes: a leading byte, which holds
the uppermost bits of its code point, and bytes with six bits each.  The
characters of a range are therefore written by a few sequences of byte ranges,
each of which stands for all its combinations.
-/
namespace Gedcom.Regex

/-- The bytes from the first to the last. -/
abbrev ByteRange := Nat × Nat

/-- The numbers from `lo` to `hi`, written with a leading digit and `k` digits to
the base 64, as sequences of digit ranges in ascending order. -/
def digitSequences : (k lo hi : Nat) → List (List (Nat × Nat))
  | 0, lo, hi => [[(lo, hi)]]
  | k + 1, lo, hi =>
    let unit := Nat.pow 64 (k + 1)
    let (a, x) := (lo / unit, lo % unit)
    let (b, y) := (hi / unit, hi % unit)
    if a = b then (digitSequences k x y).map ((a, a) :: ·)
    else
      -- the leading digits with which every number is in range
      let first := if x = 0 then a else a + 1
      let last := if y + 1 = unit then b else b - 1
      (if x = 0 then [] else (digitSequences k x (unit - 1)).map ((a, a) :: ·)) ++
      (if first ≤ last then [(first, last) :: List.replicate (k + 1) (0, 63)] else []) ++
      (if y + 1 = unit then [] else (digitSequences k 0 y).map ((b, b) :: ·))

/-- The code points of characters written with the same number of bytes: first
and last, the number of bytes behind the leading one, and what is added to the
leading digit.  Code points of surrogates are no characters. -/
def utf8Blocks : List (Nat × Nat × Nat × Nat) :=
  [(0x0, 0x7f, 0, 0x0), (0x80, 0x7ff, 1, 0xc0), (0x800, 0xd7ff, 2, 0xe0), (0xe000, 0xffff, 2, 0xe0),
    (0x10000, 0x10ffff, 3, 0xf0)]

/-- Digits as bytes. -/
def bytesOfDigits (lead : Nat) : List (Nat × Nat) → List ByteRange
  | [] => []
  | (a, b) :: digits => (a + lead, b + lead) :: digits.map fun (a, b) => (a + 0x80, b + 0x80)

/-- The sequences of byte ranges that write the characters from `lo` to `hi`. -/
def byteSequences (lo hi : Nat) : List (List ByteRange) :=
  utf8Blocks.flatMap fun (first, last, k, lead) =>
    let (lo, hi) := (max lo first, min hi last)
    if lo ≤ hi then (digitSequences k lo hi).map (bytesOfDigits lead) else []

end Gedcom.Regex

/-- The sequences of byte ranges that write the characters of a set. -/
def Gedcom.CharSet.byteSequences (s : CharSet) : List (List Regex.ByteRange) :=
  s.ranges.flatMap fun (lo, hi) => Regex.byteSequences lo hi
