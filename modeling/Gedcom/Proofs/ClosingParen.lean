import Gedcom.Regex.Token
import Mathlib.Tactic.SplitIfs

/-!
# A closing parenthesis behind what is read

When a closing parenthesis is put behind a text, everything that could be read from the text is
read as before, and the parenthesis is left behind what was left (`Closed`).  There is one
exception: where blanks and comments are ignored, a comment that runs to the end of the text
hides the parenthesis.  Then nothing is left, with the parenthesis or without it.

**Characters and escapes** (`takeAtom?_closable`) may end the text, so that a comment may follow
them.  **Sets in brackets** (`takeSet?_append`) end with a bracket, behind which nothing is
ignored yet; the parenthesis is left in any case.
-/
namespace Gedcom.Regex.Token
variable {α : Type} {f : Flags} {t r s : Text} {c : Char}

/-- What is left to read when a closing parenthesis stands behind the text: the same with the
parenthesis, unless nothing is left and a comment has hidden the parenthesis. -/
inductive Closed : Text → Text → Prop
  | shown (r : Text) : Closed r (r ++ [')'])
  | hidden : Closed [] []

theorem Closed.eq_of_cons (h : Closed (c :: r) s) : s = c :: (r ++ [')']) := by
  cases h
  rfl

/-- The parenthesis makes no beginning that was not there before. -/
theorem Closed.ne_cons (h : Closed t s) (hc : c ≠ ')') (hne : ∀ r, t ≠ c :: r) :
    ∀ r, s ≠ c :: r := by
  rintro r rfl
  cases t with
  | nil =>
    cases h
    exact hc rfl
  | cons d t =>
    obtain ⟨rfl, -⟩ := List.cons.inj h.eq_of_cons
    exact hne t rfl

/-- A way of reading that finds the same when a closing parenthesis stands behind the text. -/
def Closable (take : Text → Option (α × Text)) : Prop :=
  ∀ ⦃t a r⦄, take t = some (a, r) → ∃ s, take (t ++ [')']) = some (a, s) ∧ Closed r s

/-- If something is left to read, the parenthesis stands behind it. -/
theorem Closable.append {take : Text → Option (α × Text)} (htake : Closable take) {a : α}
    (h : take t = some (a, r)) (hr : r ≠ []) : take (t ++ [')']) = some (a, r ++ [')']) := by
  obtain ⟨s, hs, hclosed⟩ := htake h
  cases hclosed with
  | shown => exact hs
  | hidden => exact absurd rfl hr

/-! ## Ignored text -/

theorem skipIgnored_closed (comment : Bool) (t : Text) :
    Closed (skipIgnored comment t) (skipIgnored comment (t ++ [')'])) := by
  induction t generalizing comment with
  | nil =>
    cases comment with
    | true => exact .hidden
    | false => exact .shown []
  | cons c t ih =>
    rw [List.cons_append]
    cases comment with
    | true => exact ih _
    | false =>
      unfold skipIgnored
      split
      · exact ih _
      · split
        · exact ih _
        · exact .shown _

@[simp] theorem skip_nil (f : Flags) : skip f [] = [] := by
  unfold skip
  split <;> rfl

theorem skip_closed (f : Flags) (t : Text) : Closed (skip f t) (skip f (t ++ [')'])) := by
  unfold skip
  split
  · exact skipIgnored_closed false t
  · exact .shown t

theorem Closed.skip (h : Closed t s) (f : Flags) : Closed (skip f t) (skip f s) := by
  cases h with
  | shown => exact skip_closed f t
  | hidden =>
    rw [skip_nil]
    exact .hidden

theorem skip_append (h : skip f t = c :: r) : skip f (t ++ [')']) = c :: (r ++ [')']) :=
  (h ▸ skip_closed f t).eq_of_cons

theorem skip_append_of_ne_nil (h : skip f t ≠ []) : skip f (t ++ [')']) = skip f t ++ [')'] := by
  obtain ⟨c, r, hskip⟩ := List.exists_cons_of_ne_nil h
  rw [skip_append hskip, hskip, List.cons_append]

theorem length_skipIgnored_le (comment : Bool) (t : Text) :
    (skipIgnored comment t).length ≤ t.length := by
  induction t generalizing comment with
  | nil => cases comment <;> exact Nat.le_refl _
  | cons c t ih =>
    cases comment with
    | true => exact Nat.le_succ_of_le (ih _)
    | false =>
      unfold skipIgnored
      split
      · exact Nat.le_succ_of_le (ih _)
      · split
        · exact Nat.le_succ_of_le (ih _)
        · exact Nat.le_refl _

theorem length_skip_le (f : Flags) (t : Text) : (skip f t).length ≤ t.length := by
  unfold skip
  split
  · exact length_skipIgnored_le false t
  · exact Nat.le_refl _

theorem takeSpaced_nil (f : Flags) (p : Char → Bool) (n : Nat) :
    takeSpaced f p n [] = ([], []) := by
  cases n <;> rfl

theorem takeSpaced_cons (f : Flags) (p : Char → Bool) (n : Nat) (c : Char) (t : Text) :
    takeSpaced f p (n + 1) (c :: t) =
      if p c then (c :: (takeSpaced f p n (skip f t)).1, (takeSpaced f p n (skip f t)).2)
      else ([], c :: t) :=
  rfl

/-- Characters of which the parenthesis is none end in front of it. -/
theorem takeSpaced_closed {p : Char → Bool} (hp : p ')' = false) (n : Nat) (h : Closed t s) :
    (takeSpaced f p n s).1 = (takeSpaced f p n t).1 ∧
      Closed (takeSpaced f p n t).2 (takeSpaced f p n s).2 := by
  induction n generalizing t s with
  | zero => exact ⟨rfl, h⟩
  | succ n ih =>
    cases h with
    | hidden => exact ⟨rfl, .hidden⟩
    | shown =>
      cases t with
      | nil =>
        rw [List.nil_append, takeSpaced_cons, if_neg (by rw [hp]; decide)]
        exact ⟨rfl, .shown []⟩
      | cons c t =>
        obtain ⟨hchars, hrest⟩ := ih (skip_closed f t)
        rw [List.cons_append, takeSpaced_cons, takeSpaced_cons]
        split
        · exact ⟨congrArg (c :: ·) hchars, hrest⟩
        · exact ⟨rfl, .shown (c :: t)⟩

/-- Characters in front of another one, if nothing but the length of the text bounds their
number. -/
theorem takeSpaced_append {p : Char → Bool} {n : Nat} {cs : Text} (hn : t.length ≤ n)
    (h : takeSpaced f p n t = (cs, c :: r)) :
    takeSpaced f p (n + 1) (t ++ [')']) = (cs, c :: (r ++ [')'])) := by
  induction n generalizing t cs with
  | zero =>
    rw [List.length_eq_zero_iff.mp (Nat.le_zero.mp hn), takeSpaced] at h
    cases h
  | succ n ih =>
    cases t with
    | nil =>
      rw [takeSpaced_nil] at h
      cases h
    | cons d t =>
      have hlength : (skip f t).length ≤ n :=
        Nat.le_trans (length_skip_le f t) (Nat.le_of_succ_le_succ hn)
      rw [takeSpaced_cons] at h
      rw [List.cons_append, takeSpaced_cons]
      split at h
      next hd =>
        obtain ⟨rfl, hrest⟩ := Prod.mk.inj h
        rw [if_pos hd]
        cases hskip : skip f t with
        | nil =>
          rw [hskip, takeSpaced_nil] at hrest
          cases hrest
        | cons e u =>
          rw [skip_append hskip, ← List.cons_append, ← hskip, ih hlength (Prod.ext rfl hrest)]
      next hd =>
        rw [if_neg hd]
        cases h
        rfl

theorem takeSpaced_skip_append {p : Char → Bool} {cs : Text}
    (h : takeSpaced f p t.length (skip f t) = (cs, c :: r)) :
    takeSpaced f p (t.length + 1) (skip f (t ++ [')'])) = (cs, c :: (r ++ [')'])) := by
  cases hskip : skip f t with
  | nil =>
    rw [hskip, takeSpaced_nil] at h
    cases h
  | cons d u =>
    rw [skip_append hskip, ← List.cons_append, ← hskip]
    exact takeSpaced_append (length_skip_le f t) h

theorem dropWhile_append_paren {p : Char → Bool} (hp : p ')' = false) (t : Text) :
    (t ++ [')']).dropWhile p = t.dropWhile p ++ [')'] := by
  rw [List.dropWhile_append, List.dropWhile_cons_of_neg (by rw [hp]; decide)]
  split
  · next h => rw [List.isEmpty_iff.mp h, List.nil_append]
  · rfl

/-! ## Characters and escapes -/

theorem takeHex?_closable (f : Flags) (n : Nat) : Closable (takeHex? f n) := by
  intro t a r h
  unfold takeHex? at h ⊢
  split at h
  · cases h
  · next u hskip =>
    rw [skip_append hskip]
    rcases hdigits : takeSpaced f isHex u.length (skip f u) with ⟨digits, rest⟩
    rw [hdigits] at h
    dsimp only at h ⊢
    split at h
    · next rest =>
      obtain ⟨d, hd, hatom⟩ := Option.map_eq_some_iff.mp h
      obtain ⟨rfl, rfl⟩ := Prod.mk.inj hatom
      simp only [List.length_append, List.length_singleton, takeSpaced_skip_append hdigits]
      rw [hd]
      exact ⟨_, rfl, skip_closed f rest⟩
    · cases h
  · next hnil hbrace =>
    obtain ⟨hdigits, hrest⟩ := takeSpaced_closed (p := isHex) (f := f) rfl n (.shown (skip f t))
    rw [skip_append_of_ne_nil hnil]
    split
    · next heq => cases (List.append_eq_nil_iff.mp heq).2
    · next heq => exact absurd heq ((Closed.shown _).ne_cons (by decide) hbrace _)
    · dsimp only at h ⊢
      rw [hdigits]
      split at h
      · next hlen =>
        rw [if_pos hlen]
        split at h
        · next d hd =>
          split at h
          · cases h
          · next hbyte =>
            rw [if_neg hbyte]
            obtain ⟨rfl, rfl⟩ := Prod.mk.inj (Option.some.inj h)
            exact ⟨_, rfl, hrest⟩
        · cases h
      · cases h

theorem takeEdge?_closable (f : Flags) : Closable (takeEdge? f) := by
  intro t a r h
  unfold takeEdge? at h ⊢
  split at h
  · next u =>
    dsimp only at h
    split at h
    · cases h
    · next c v hskip =>
      rw [List.cons_append]
      simp only [skip_append hskip]
      split at h
      · next hc =>
        rw [if_pos hc]
        cases h
        exact ⟨_, rfl, .shown ('{' :: u)⟩
      · next hc =>
        rw [if_neg hc]
        rcases hname : takeSpaced f (fun c => c.isAlpha || c == '-') (v.length + 1) (c :: v) with
          ⟨name, rest⟩
        rw [hname] at h
        dsimp only at h
        split at h
        · next rest =>
          rw [List.length_append, List.length_singleton, ← List.cons_append,
            takeSpaced_append (n := v.length + 1) (Nat.le_refl _) hname]
          simp only
          split_ifs at h ⊢ <;> cases h <;> exact ⟨_, rfl, .shown _⟩
        · cases h
  · next hbrace =>
    cases h
    split
    · next heq => exact absurd heq ((Closed.shown t).ne_cons (by decide) hbrace _)
    · exact ⟨_, rfl, .shown _⟩

theorem takeProperty?_closable (f : Flags) (negated : Bool) :
    Closable (takeProperty? f negated) := by
  intro t a r h
  unfold takeProperty? at h ⊢
  dsimp only at h ⊢
  split at h
  · cases h
  · cases h
  · next u hskip =>
    simp only [skip_append hskip, List.length_append, List.length_singleton]
    rcases hname : takeSpaced f (fun c => c != '}') u.length (skip f u) with ⟨name, rest⟩
    rw [hname] at h
    dsimp only at h
    split at h
    · cases h
    · next c rest =>
      rw [takeSpaced_skip_append hname]
      simp only
      split_ifs at h ⊢
      obtain ⟨u, hu, hatom⟩ := Option.map_eq_some_iff.mp h
      rw [hu]
      cases hatom
      exact ⟨_, rfl, .shown _⟩
  · next c u hescape hbrace hskip =>
    rw [skip_append hskip]
    split
    · next heq => cases heq
    · next heq => exact absurd (List.cons.inj heq).1 hescape
    · next heq => exact absurd (List.cons.inj heq).1 hbrace
    · next c' u' _ _ heq =>
      obtain ⟨rfl, rfl⟩ := List.cons.inj heq
      split_ifs at h ⊢
      obtain ⟨u, hu, hatom⟩ := Option.map_eq_some_iff.mp h
      rw [hu]
      cases hatom
      exact ⟨_, rfl, .shown _⟩

theorem takeClass?_closable (f : Flags) (negated : Bool) (s : CharSet) :
    Closable (takeClass? f negated s) := by
  intro t a r h
  obtain ⟨u, hu, hatom⟩ := Option.map_eq_some_iff.mp h
  obtain ⟨rfl, rfl⟩ := Prod.mk.inj hatom
  exact ⟨_, by rw [takeClass?, hu]; rfl, .shown _⟩

theorem takeEscape?_closable (f : Flags) : Closable (takeEscape? f) := by
  intro t a r h
  cases t with
  | nil => cases h
  | cons c t =>
    rw [List.cons_append]
    unfold takeEscape? at h ⊢
    dsimp only at h ⊢
    split at h
    next hmeta =>
      rw [if_pos hmeta]
      cases h
      exact ⟨_, rfl, .shown _⟩
    next hmeta =>
      rw [if_neg hmeta]
      split at h
      case h_1 | h_2 | h_3 => exact takeHex?_closable _ _ h
      case h_4 | h_5 => exact takeProperty?_closable _ _ h
      case h_6 | h_7 | h_8 | h_9 | h_10 | h_11 => exact takeClass?_closable _ _ _ h
      case h_20 => exact takeEdge?_closable f h
      case h_24 =>
        split_ifs at h ⊢
        cases h
        exact ⟨_, rfl, .shown _⟩
      all_goals
        cases h
        exact ⟨_, rfl, .shown _⟩

theorem takeAtom?_closable (f : Flags) : Closable (takeAtom? f) := by
  intro t a r h
  cases t with
  | nil => cases h
  | cons c t =>
    rw [List.cons_append]
    unfold takeAtom? at h ⊢
    split at h
    · cases h
    · next u heq =>
      obtain ⟨rfl, rfl⟩ := List.cons.inj heq
      exact takeEscape?_closable f h
    · next c' u hescape heq =>
      obtain ⟨rfl, rfl⟩ := List.cons.inj heq
      cases h
      split
      · next heq => cases heq
      · next heq => exact absurd (List.cons.inj heq).1 hescape
      · next heq =>
        obtain ⟨rfl, rfl⟩ := List.cons.inj heq
        exact ⟨_, rfl, .shown _⟩

/-! ## Sets in brackets -/

theorem eq_of_append_paren {d e : Char} (he : e ≠ ')') (h : t ++ [')'] = d :: e :: r) :
    ∃ u, t = d :: e :: u := by
  cases t with
  | nil => cases h
  | cons c t =>
    cases t with
    | nil =>
      obtain ⟨-, h⟩ := List.cons.inj h
      exact absurd (List.cons.inj h).1.symm he
    | cons b t =>
      obtain ⟨hd, h⟩ := List.cons.inj h
      exact ⟨t, by rw [hd, (List.cons.inj h).1]⟩

theorem takeWhile_append_paren {p : Char → Bool} (h : t.dropWhile p = c :: r) :
    (t ++ [')']).takeWhile p = t.takeWhile p ∧ (t ++ [')']).dropWhile p = c :: (r ++ [')']) := by
  induction t with
  | nil => cases h
  | cons d t ih =>
    rw [List.cons_append, List.takeWhile_cons, List.takeWhile_cons, List.dropWhile_cons]
    rw [List.dropWhile_cons] at h
    split at h
    · next hd =>
      obtain ⟨htake, hdrop⟩ := ih h
      rw [if_pos hd, if_pos hd, if_pos hd, htake]
      exact ⟨rfl, hdrop⟩
    · next hd =>
      rw [if_neg hd, if_neg hd, if_neg hd, ← List.cons_append, h]
      exact ⟨rfl, rfl⟩

/-- A named set from behind its colon and circumflex on. -/
def namedRest? (negated : Bool) (t : Text) : Option (CharSet × Bool × Text) :=
  match t.dropWhile (· != ':') with
  | ':' :: ']' :: rest =>
    (namedSet? (String.ofList (t.takeWhile (· != ':')))).map fun s => (s, negated, rest)
  | _ => none

/-- Put the parenthesis behind what is left to read. -/
def withParen : CharSet × Bool × Text → CharSet × Bool × Text
  | (s, negated, r) => (s, negated, r ++ [')'])

theorem namedRest?_append (negated : Bool) (t : Text) :
    namedRest? negated (t ++ [')']) = (namedRest? negated t).map withParen := by
  unfold namedRest?
  cases hdrop : t.dropWhile (· != ':') with
  | nil =>
    rw [List.dropWhile_append, hdrop]
    rfl
  | cons c r =>
    obtain ⟨htake, hdrop'⟩ := takeWhile_append_paren hdrop
    rw [htake, hdrop']
    split
    · next u heq =>
      obtain ⟨v, hv⟩ := eq_of_append_paren (t := c :: r) (by decide) heq
      obtain ⟨rfl, rfl⟩ := List.cons.inj hv
      obtain rfl : v ++ [')'] = u := (List.cons.inj (List.cons.inj heq).2).2
      cases namedSet? (String.ofList (t.takeWhile (· != ':'))) <;> rfl
    · next hname =>
      split
      · next v hv => exact absurd (congrArg (· ++ [')']) hv) (hname (v ++ [')']))
      · rfl

theorem takeNamed?_of_ne_caret (h : c ≠ '^') :
    takeNamed? (':' :: c :: t) = namedRest? false (c :: t) := by
  rw [takeNamed?]
  · rfl
  · exact fun u heq => absurd (List.cons.inj heq).1 h

theorem takeNamed?_of_ne_colon (h : c ≠ ':') : takeNamed? (c :: t) = none := by
  unfold takeNamed?
  split
  · next heq => exact absurd (List.cons.inj heq).1 h
  · rfl

/-- Whether a named set stands at some place does not depend on the parenthesis. -/
theorem takeNamed?_append (t : Text) :
    takeNamed? (t ++ [')']) = (takeNamed? t).map withParen := by
  cases t with
  | nil => rfl
  | cons c t =>
    by_cases hcolon : c = ':'
    · subst hcolon
      cases t with
      | nil => rfl
      | cons d t =>
        by_cases hcaret : d = '^'
        · subst hcaret
          exact namedRest?_append true t
        · rw [List.cons_append, List.cons_append, takeNamed?_of_ne_caret hcaret,
            takeNamed?_of_ne_caret hcaret]
          exact namedRest?_append false (d :: t)
    · rw [List.cons_append, takeNamed?_of_ne_colon hcolon, takeNamed?_of_ne_colon hcolon]
      rfl

/-- A set in brackets from behind the circumflex on. -/
def bracketStart? (f : Flags) (negated : Bool) (t : Text) : Option (Bracket × Text) :=
  let (dashes, t) := takeSpaced f (· == '-') t.length t
  let b : Bracket :=
    dashes.foldl (fun b c => b.add ⟨CharSet.single c, 0⟩) { negated }
  match t with
  | [] => none
  | ']' :: r =>
    if dashes.isEmpty then
      if (skip f r).isEmpty then none else some (b.add ⟨CharSet.single ']', 0⟩, skip f r)
    else some (b, t)
  | _ => some (b, t)

theorem takeBracket?_of_caret (h : skip f t = '^' :: r) :
    takeBracket? f t = bracketStart? f true (skip f r) := by
  rw [takeBracket?, h]
  rfl

theorem takeBracket?_of_ne_caret (h : ∀ r, skip f t ≠ '^' :: r) :
    takeBracket? f t = bracketStart? f false (skip f t) := by
  unfold takeBracket?
  split
  next negated u heq =>
    split at heq
    · next v hskip => exact absurd hskip (h v)
    · cases heq
      rfl

theorem ne_nil_of_bracketStart? {negated : Bool} {b : Bracket}
    (h : bracketStart? f negated t = some (b, r)) : t ≠ [] := by
  rintro rfl
  rw [bracketStart?, takeSpaced_nil] at h
  cases h

theorem bracketStart?_append {negated : Bool} {b : Bracket}
    (h : bracketStart? f negated t = some (b, r)) :
    bracketStart? f negated (t ++ [')']) = some (b, r ++ [')']) := by
  unfold bracketStart? at h ⊢
  rcases hdashes : takeSpaced f (· == '-') t.length t with ⟨dashes, rest⟩
  rw [hdashes] at h
  cases rest with
  | nil => cases h
  | cons c rest =>
    rw [List.length_append, List.length_singleton, takeSpaced_append (Nat.le_refl _) hdashes]
    dsimp only at h ⊢
    split at h
    · next heq => cases heq
    · next u heq =>
      obtain ⟨rfl, rfl⟩ := List.cons.inj heq
      simp only
      split_ifs at h with hd hskip
      · cases h
        rw [skip_append_of_ne_nil (mt List.isEmpty_iff.mpr hskip), if_pos hd, if_neg]
        rw [List.isEmpty_iff, List.append_eq_nil_iff]
        exact fun hnil => List.cons_ne_nil _ _ hnil.2
      · cases h
        rw [if_neg hd]
        rfl
    · next hclose =>
      cases h
      split
      · next heq => cases heq
      · next u heq => exact absurd (by rw [(List.cons.inj heq).1]) (hclose rest)
      · rfl

theorem takeBracket?_append {b : Bracket} (h : takeBracket? f t = some (b, r)) :
    takeBracket? f (t ++ [')']) = some (b, r ++ [')']) := by
  by_cases hcaret : ∃ u, skip f t = '^' :: u
  · obtain ⟨u, hskip⟩ := hcaret
    rw [takeBracket?_of_caret hskip] at h
    rw [takeBracket?_of_caret (skip_append hskip),
      skip_append_of_ne_nil (ne_nil_of_bracketStart? h)]
    exact bracketStart?_append h
  · have hne : ∀ u, skip f t ≠ '^' :: u := fun u hu => hcaret ⟨u, hu⟩
    rw [takeBracket?_of_ne_caret hne] at h
    rw [takeBracket?_of_ne_caret ((skip_closed f t).ne_cons (by decide) hne),
      skip_append_of_ne_nil (ne_nil_of_bracketStart? h)]
    exact bracketStart?_append h

theorem head?_append_paren (t : Text) :
    (t ++ [')']).head? = t.head? ∨ t.head? = none ∧ (t ++ [')']).head? = some ')' := by
  cases t with
  | nil => exact .inr ⟨rfl, rfl⟩
  | cons c t => exact .inl rfl

theorem peek_append (f : Flags) (t : Text) :
    peek f (t ++ [')']) = peek f t ∨ peek f t = none ∧ peek f (t ++ [')']) = some ')' := by
  unfold peek
  split
  · rw [dropWhile_append_paren (by decide)]
    cases t.dropWhile Text.isBlank with
    | nil => exact .inr ⟨rfl, rfl⟩
    | cons c u =>
      rw [List.cons_append]
      by_cases hc : c = '#'
      · subst hc
        simp only [dropWhile_append_paren (p := Text.isBlank) (by decide)]
        exact head?_append_paren _
      · left
        split
        · next heq => exact absurd (List.cons.inj heq).1 hc
        · split
          · next heq => exact absurd (List.cons.inj heq).1 hc
          · rfl
  · exact head?_append_paren t

theorem takeItem?_closable (f : Flags) : Closable (takeItem? f) := by
  intro t s r h
  obtain ⟨⟨first, u⟩, hfirst, h⟩ := Option.bind_eq_some_iff.mp h
  have hu : u ≠ [] := by
    rintro rfl
    simp only [skip_nil] at h
    cases h
  rw [takeItem?, (takeAtom?_closable f).append hfirst hu]
  simp only [Option.bind_eq_bind, Option.bind_some]
  dsimp only at h
  split at h
  · cases h
  · next v hskip =>
    simp only [skip_append hskip]
    have hpeek :
        (decide (peek f (v ++ [')']) = some ']') || decide (peek f (v ++ [')']) = some '-')) =
          (decide (peek f v = some ']') || decide (peek f v = some '-')) := by
      obtain hsame | ⟨hnone, hparen⟩ := peek_append f v
      · rw [hsame]
      · rw [hnone, hparen]
        rfl
    rw [hpeek]
    split at h
    · next hdash =>
      rw [if_pos hdash]
      cases first <;> cases h <;> exact ⟨_, rfl, .shown _⟩
    · next hdash =>
      rw [if_neg hdash]
      obtain ⟨⟨last, w⟩, hlast, h⟩ := Option.bind_eq_some_iff.mp h
      obtain ⟨w', hw', hclosed⟩ := takeAtom?_closable f hlast
      have hskip' : skip f v ≠ [] := by
        intro hnil
        rw [hnil] at hlast
        cases hlast
      rw [skip_append_of_ne_nil hskip', hw']
      simp only [Option.bind_some]
      cases first with
      | literal lo =>
        cases last with
        | literal hi =>
          dsimp only at h ⊢
          split_ifs at h ⊢
          cases h
          exact ⟨w', rfl, hclosed⟩
        | set _ | look _ => cases h
      | set _ | look _ => cases last <;> cases h
  · next hnil hdash =>
    rw [skip_append_of_ne_nil hnil]
    split
    · next heq => cases (List.append_eq_nil_iff.mp heq).2
    · next heq => exact absurd heq ((Closed.shown _).ne_cons (by decide) hdash _)
    · cases first <;> cases h <;> exact ⟨_, rfl, .shown _⟩

theorem ne_nil_of_takeSet? {n : Nat} {b : Bracket} {outer : List Bracket} {x : NestedSet}
    (h : takeSet? f n b outer t = some (x, r)) : t ≠ [] := by
  rintro rfl
  cases n with
  | zero => cases h
  | succ n =>
    rw [takeSet?, skip_nil] at h
    cases h

theorem takeSet?_append {n m : Nat} {b : Bracket} {outer : List Bracket} {x : NestedSet}
    (h : takeSet? f n b outer t = some (x, r)) (hnm : n ≤ m) :
    takeSet? f m b outer (t ++ [')']) = some (x, r ++ [')']) := by
  induction n generalizing m b outer t with
  | zero => cases h
  | succ n ih =>
    obtain ⟨m, rfl⟩ : ∃ k, m = k + 1 := ⟨m - 1, by omega⟩
    replace hnm := Nat.le_of_succ_le_succ hnm
    unfold takeSet? at h ⊢
    split at h
    · cases h
    · next u hskip =>
      simp only [skip_append hskip]
      split at h
      · cases h
      · next hclose =>
        cases h
        rfl
      · next hclose => exact ih h hnm
    · next u hskip =>
      simp only [skip_append hskip, takeNamed?_append]
      split at h
      · next set negated v hnamed =>
        simp only [hnamed, Option.map_some, withParen]
        split at h
        · exact ih h hnm
        · cases h
      · next hnamed =>
        simp only [hnamed, Option.map_none]
        split at h
        · next hopen =>
          rw [takeBracket?_append hopen]
          exact ih h hnm
        · cases h
    · next hskip =>
      simp only [skip_append hskip, List.cons_append]
      exact ih h hnm
    · next hskip =>
      simp only [skip_append hskip, List.cons_append]
      exact ih h hnm
    · next hskip =>
      simp only [skip_append hskip, List.cons_append]
      exact ih h hnm
    · next hnil hclose hopen hand hdash htilde =>
      -- behind the last character of the text the parenthesis makes no sign of two characters
      rw [skip_append_of_ne_nil hnil]
      split
      · next heq => cases (List.append_eq_nil_iff.mp heq).2
      · next heq => exact absurd heq ((Closed.shown _).ne_cons (by decide) hclose _)
      · next heq => exact absurd heq ((Closed.shown _).ne_cons (by decide) hopen _)
      · next heq =>
        obtain ⟨v, hv⟩ := eq_of_append_paren (by decide) heq
        exact absurd hv (hand v)
      · next heq =>
        obtain ⟨v, hv⟩ := eq_of_append_paren (by decide) heq
        exact absurd hv (hdash v)
      · next heq =>
        obtain ⟨v, hv⟩ := eq_of_append_paren (by decide) heq
        exact absurd hv (htilde v)
      · split at h
        · next set v hitem =>
          split_ifs at h with hascii
          rw [(takeItem?_closable f).append hitem (ne_nil_of_takeSet? h)]
          simp only [hascii, if_true]
          exact ih h hnm
        · cases h

end Gedcom.Regex.Token
