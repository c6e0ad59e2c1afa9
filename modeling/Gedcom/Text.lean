/-!
# Text

A transmission, a record and a line are all texts: sequences of characters.
This module holds the line structure of a text and the few operations on
characters that the rest of the library shares.

A text is cut into *pieces* at the characters that satisfy a test; its lines
are its pieces at newlines.  `joinLines_lines` says that cutting a text into
lines and joining them again loses nothing, and `lines_joinLines` that lines
without newlines are found again.
-/
namespace Gedcom

/-- A text is its sequence of characters. -/
abbrev Text := List Char

namespace Text

/-- Put one character in front of a text that is already cut into pieces: a
separator opens a new piece, any other character joins the first one. -/
def consPiece (sep : Char → Bool) (c : Char) : List Text → List Text
  | [] => if sep c then [[], []] else [[c]]
  | piece :: rest => if sep c then [] :: piece :: rest else (c :: piece) :: rest

/-- The pieces of a text between its separators, empty ones included; there is
always at least one. -/
def pieces (sep : Char → Bool) (t : Text) : List Text := t.foldr (consPiece sep) [[]]

/-- The pieces of a text that are not empty. -/
def fields (sep : Char → Bool) (t : Text) : List Text :=
  (pieces sep t).filter fun piece => !piece.isEmpty

/-- The lines of a text: what stands between its newlines. -/
def lines (t : Text) : List Text := pieces (· == '\n') t

/-- Lines joined by newlines. -/
def joinLines (ls : List Text) : Text := ['\n'].intercalate ls

/-- The first line of a text, without its newline. -/
def firstLine (t : Text) : Text := t.takeWhile (· != '\n')

/-- What follows the first newline of a text; nothing if there is none. -/
def afterFirstLine (t : Text) : Text := (t.dropWhile (· != '\n')).drop 1

/-- The two sides of the first separator of a text, if it has one. -/
def cut? (sep : Char → Bool) (t : Text) : Option (Text × Text) :=
  match t.dropWhile fun c => !sep c with
  | [] => none
  | _ :: after => some (t.takeWhile fun c => !sep c, after)

/-- What follows `head` in a text that begins with it. -/
def after? : (head : Text) → Text → Option Text
  | [], t => some t
  | _ :: _, [] => none
  | h :: hs, c :: cs => if h = c then after? hs cs else none

/-- Every occurrence of `old`, found from left to right without overlap, gives
way to `new`.  `steps` bounds the number of characters that are looked at. -/
def replaceWithin (old new : Text) : (steps : Nat) → Text → Text
  | 0, t => t
  | _ + 1, [] => []
  | n + 1, c :: cs =>
    match after? old (c :: cs) with
    | some rest => new ++ replaceWithin old new n rest
    | none => c :: replaceWithin old new n cs

/-- Every occurrence of `old`, found from left to right without overlap, gives
way to `new`; `old` is not empty. -/
def replace (old new t : Text) : Text := replaceWithin old new t.length t

/-- The number written by decimal digits, most significant first. -/
def digitsValue (t : Text) : Nat :=
  t.foldl (fun n c => 10 * n + (c.toNat - '0'.toNat)) 0

/-! ### Lines and pieces -/

variable {sep : Char → Bool}

@[simp] theorem pieces_nil : pieces sep [] = [[]] := rfl

theorem pieces_cons (c : Char) (t : Text) :
    pieces sep (c :: t) = consPiece sep c (pieces sep t) := rfl

theorem consPiece_ne_nil (c : Char) (ps : List Text) : consPiece sep c ps ≠ [] := by
  cases ps <;> by_cases h : sep c <;> simp [consPiece, h]

theorem pieces_ne_nil (t : Text) : pieces sep t ≠ [] := by
  cases t with
  | nil => simp
  | cons c t => exact consPiece_ne_nil c _

@[simp] theorem lines_nil : lines [] = [[]] := rfl

theorem lines_ne_nil (t : Text) : lines t ≠ [] := pieces_ne_nil t

@[simp] theorem joinLines_singleton (l : Text) : joinLines [l] = l := by
  simp [joinLines, List.intercalate]

@[simp] theorem joinLines_cons_cons (l m : Text) (ls : List Text) :
    joinLines (l :: m :: ls) = l ++ '\n' :: joinLines (m :: ls) := by
  simp [joinLines, List.intercalate]

/-- Joining the lines of a text gives the text back. -/
theorem joinLines_lines (t : Text) : joinLines (lines t) = t := by
  induction t with
  | nil => rfl
  | cons c t ih =>
    rw [lines, pieces_cons]
    cases hl : pieces (· == '\n') t with
    | nil => exact absurd hl (pieces_ne_nil t)
    | cons l rest =>
      rw [lines, hl] at ih
      unfold consPiece
      by_cases hc : c = '\n'
      · subst hc
        simpa [joinLines, List.intercalate] using ih
      · rw [← ih]
        cases rest <;> simp [hc, joinLines, List.intercalate]

/-- A text without separators is its only piece. -/
theorem pieces_eq_singleton {t : Text} (h : ∀ c ∈ t, sep c = false) :
    pieces sep t = [t] := by
  induction t with
  | nil => rfl
  | cons c t ih =>
    rw [pieces_cons, ih fun d hd => h d (List.mem_cons_of_mem _ hd)]
    simp [consPiece, h c List.mem_cons_self]

/-- A separator after a separator-free beginning ends the first piece. -/
theorem pieces_append_cons {t rest : Text} {c : Char} (h : ∀ d ∈ t, sep d = false)
    (hc : sep c = true) : pieces sep (t ++ c :: rest) = t :: pieces sep rest := by
  induction t with
  | nil =>
    rw [List.nil_append, pieces_cons]
    cases hp : pieces sep rest with
    | nil => exact absurd hp (pieces_ne_nil rest)
    | cons p ps => simp [consPiece, hc]
  | cons d t ih =>
    rw [List.cons_append, pieces_cons, ih fun e he => h e (List.mem_cons_of_mem _ he)]
    simp [consPiece, h d List.mem_cons_self]

/-- Pieces without separators are found again between them. -/
theorem pieces_intercalate {c : Char} (hc : sep c = true) {ts : List Text} (hne : ts ≠ [])
    (h : ∀ t ∈ ts, ∀ d ∈ t, sep d = false) : pieces sep ([c].intercalate ts) = ts := by
  induction ts with
  | nil => exact absurd rfl hne
  | cons t ts ih =>
    obtain ⟨ht, hts⟩ := List.forall_mem_cons.mp h
    cases ts with
    | nil =>
      rw [List.intercalate_singleton]
      exact pieces_eq_singleton ht
    | cons u ts =>
      rw [List.intercalate_cons_cons, List.append_assoc, List.singleton_append,
        pieces_append_cons ht hc, ih (by simp) hts]

/-- Lines that hold no newline are found again in the text they are joined to. -/
theorem lines_joinLines {ls : List Text} (hne : ls ≠ []) (h : ∀ l ∈ ls, '\n' ∉ l) :
    lines (joinLines ls) = ls := by
  refine pieces_intercalate rfl hne fun l hl c hc => beq_eq_false_iff_ne.mpr ?_
  rintro rfl
  exact h l hl hc

end Text
end Gedcom
