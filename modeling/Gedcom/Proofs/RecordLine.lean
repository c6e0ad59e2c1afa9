import Gedcom.Proofs.OutlineText

/-!
# The identifiers of records

The identifier of a record is read twice: with its line, and by `recordXref?` from what is
left of the text of the record.  The second way finds a line `0 @xref@ TAG` by its
characters.  Both agree if the level number of the line is written without leading zeros
(`recordXref?_of_isPlain`); otherwise the second way finds nothing
(`recordXref?_of_not_isPlain`).  A line below a record line has no identifier
(`recordXref?_of_pos`).

The level, the identifier and the tag of a line stand in front of its value, and so they do not
depend on it (`heading?_append`).
-/
namespace Gedcom

namespace Line

/-- Whether the level number of a line is written without leading zeros. -/
def isPlain (l : Text) : Bool := l.head? != some '0' || !l.tail.head?.any Char.isDigit

theorem takeWhile_append_stop {p : Char → Bool} {c : Char} (hc : p c = false) (u t : Text) :
    (u ++ c :: t).takeWhile p = u.takeWhile p ∧
      (u ++ c :: t).dropWhile p = u.dropWhile p ++ c :: t := by
  induction u with
  | nil => simp [hc]
  | cons d u ih => cases hd : p d <;> simp [hd, ih]

/-- What stands in front of the first character that does not pass a test. -/
theorem takeWhile_stop {p : Char → Bool} {c : Char} (hc : p c = false) {u : Text}
    (hu : ∀ d ∈ u, p d = true) (t : Text) :
    (u ++ c :: t).takeWhile p = u ∧ (u ++ c :: t).dropWhile p = c :: t := by
  obtain ⟨htake, hdrop⟩ := takeWhile_append_stop hc u t
  rw [htake, hdrop, List.takeWhile_eq_self_iff.mpr hu, List.dropWhile_eq_nil_iff.mpr hu]
  exact ⟨rfl, rfl⟩

/-- Whether a text may be the identifier of a record. -/
def isXref (xref : String) : Bool :=
  !xref.toList.isEmpty && decide (xref.toList.length ≤ maxXrefLength) &&
    xref.toList.all isXrefChar

theorem takeXref?_eq_some {t rest : Text} {xref : String} :
    takeXref? t = some (xref, rest) ↔
      t = '@' :: (xref.toList ++ '@' :: rest) ∧ isXref xref = true := by
  constructor
  · intro h
    unfold takeXref? at h
    split at h
    · rename_i u
      split at h
      · rename_i after hdrop
        dsimp only at h
        split at h
        · cases h
        · rename_i hbounds
          obtain ⟨rfl, rfl⟩ := Prod.mk.inj (Option.some.inj h)
          have hsplit := List.takeWhile_append_dropWhile (p := isXrefChar) (l := u)
          rw [hdrop] at hsplit
          rw [isXref, String.toList_ofList, hsplit]
          refine ⟨rfl, ?_⟩
          simp only [Bool.or_eq_true, decide_eq_true_eq, not_or, Nat.not_lt] at hbounds
          simp only [Bool.and_eq_true, decide_eq_true_eq, Bool.not_eq_true']
          exact ⟨⟨Bool.not_eq_true _ ▸ hbounds.1, hbounds.2⟩,
            List.all_eq_true.mpr fun c hc => List.mem_takeWhile_imp hc⟩
      · cases h
    · cases h
  · rintro ⟨rfl, hxref⟩
    rw [isXref, Bool.and_eq_true, Bool.and_eq_true, decide_eq_true_eq] at hxref
    obtain ⟨⟨hne, hlength⟩, hall⟩ := hxref
    obtain ⟨htake, hdrop⟩ :=
      takeWhile_stop (c := '@') (by decide) (List.all_eq_true.mp hall) rest
    have hbounds :
        ¬(xref.toList.isEmpty || decide (maxXrefLength < xref.toList.length)) = true := by
      simpa [hlength] using hne
    simp only [takeXref?, htake, hdrop, if_neg hbounds, String.ofList_toList]

/-- What follows a character that stands in no identifier does not change the identifier at a
place in front of it. -/
theorem takeXref?_append {stop : Char} (hstop : isXrefChar stop = false) (hat : stop ≠ '@')
    (u t : Text) :
    takeXref? (u ++ stop :: t) =
      (takeXref? u).map fun (xref, after) => (xref, after ++ stop :: t) := by
  cases u with
  | nil => simp [takeXref?, hat]
  | cons c u =>
    by_cases hc : c = '@'
    · subst hc
      obtain ⟨htake, hdrop⟩ := takeWhile_append_stop hstop u t
      rw [List.cons_append, takeXref?, takeXref?, htake, hdrop]
      cases u.dropWhile isXrefChar with
      | nil => simp [hat]
      | cons d v =>
        by_cases hd : d = '@'
        · subst hd
          show (if _ then none else some (_, v ++ stop :: t)) =
            (if _ then none else some (_, v) : Option (String × Text)).map _
          split <;> rfl
        · simp [hd]
    · simp [takeXref?, hc]

theorem takeTag?_append {stop : Char} (hstop : isTagChar stop = false) (u t : Text) :
    takeTag? (u ++ stop :: t) = (takeTag? u).map fun (tag, after) => (tag, after ++ stop :: t) := by
  obtain ⟨htake, hdrop⟩ := takeWhile_append_stop hstop u t
  unfold takeTag?
  rw [htake, hdrop]
  dsimp only
  split <;> rfl

theorem hasLevel_zero (t : Text) : hasLevel 0 ('0' :: ' ' :: t) = true := rfl

/-- A line below a record line does not begin a record. -/
theorem recordXref?_of_pos {level : Nat} {l : Text} (hl : isLegible level l = true)
    (hlevel : 0 < level) (t : Text) : recordXref? (l ++ '\n' :: t) = none := by
  have hzero : hasLevel 0 l = false := by
    rw [hasLevel_of_isLegible hl]
    exact beq_false_of_ne (Nat.ne_of_gt hlevel)
  unfold recordXref?
  split
  · rename_i u hu
    match l with
    | [] => cases hu
    | [c] => simp at hu
    | c :: d :: l =>
      obtain ⟨rfl, htail⟩ := List.cons.inj hu
      obtain ⟨rfl, _⟩ := List.cons.inj htail
      rw [hasLevel_zero] at hzero
      cases hzero
  · rfl

/-- The identifier of a record is not found if the level number of its line is written with
leading zeros. -/
theorem recordXref?_of_not_isPlain {l : Text} (hplain : isPlain l = false) (t : Text) :
    recordXref? (l ++ '\n' :: t) = none := by
  unfold recordXref?
  split
  · rename_i u hu
    match l with
    | [] => cases hu
    | [c] => simp at hu
    | c :: d :: l =>
      obtain ⟨rfl, htail⟩ := List.cons.inj hu
      obtain ⟨rfl, _⟩ := List.cons.inj htail
      exact absurd hplain (by simp [isPlain])
  · rfl

theorem digitsValue_pos {c : Char} (hc : c.isDigit = true) (hne : c ≠ '0') (t : Text) :
    0 < Text.digitsValue (c :: t) := by
  have hmono : ∀ (t : Text) (n : Nat), 0 < n →
      0 < t.foldl (fun n c => 10 * n + (c.toNat - '0'.toNat)) n := by
    intro t
    induction t with
    | nil => exact fun _ hn => hn
    | cons d t ih =>
      intro n hn
      have hnext : 0 < 10 * n + (d.toNat - '0'.toNat) := by omega
      exact ih _ hnext
  have hrange : 48 ≤ c.toNat := by
    rw [Char.isDigit, Bool.and_eq_true, decide_eq_true_eq, decide_eq_true_eq] at hc
    exact hc.1
  have hnat : c.toNat ≠ 48 := fun h => hne (Char.toNat_inj.mp h)
  have hzero : '0'.toNat = 48 := rfl
  have hfirst : 0 < 10 * 0 + (c.toNat - '0'.toNat) := by omega
  exact hmono t _ hfirst

/-- The line of a record, written without leading zeros. -/
theorem exists_of_isPlain {l : Text} (hl : isLegible 0 l = true) (hplain : isPlain l = true) :
    ∃ u, l = '0' :: ' ' :: u := by
  obtain ⟨line, hline, _⟩ := exists_of_isLegible hl
  have hlevel := hasLevel_self_of_isLegible hl
  obtain ⟨c, cs, rfl, hc⟩ := exists_digit_of_hasLevel hlevel
  -- a number of another first digit is greater
  have hzero : c = '0' := by
    by_contra hne
    have hpos := digitsValue_pos hc hne (cs.takeWhile Char.isDigit)
    rw [hasLevel, levelOf?, takeLevel?, List.takeWhile_cons_of_pos hc] at hlevel
    split at hlevel
    · cases hlevel
    · rw [Option.map_some, beq_iff_eq, Option.some.injEq] at hlevel
      omega
  subst hzero
  cases cs with
  | nil => cases hline
  | cons d cs =>
    have hd : d.isDigit = false := by
      simpa [isPlain] using hplain
    have hread : takeLevel? ('0' :: d :: cs) = some (0, d :: cs) := by
      rw [takeLevel?, List.takeWhile_cons_of_pos (by decide),
        List.takeWhile_cons_of_neg (by simp [hd]), List.dropWhile_cons_of_pos (by decide),
        List.dropWhile_cons_of_neg (by simp [hd])]
      rfl
    rw [ofLine?, hread] at hline
    -- a line goes on with a blank after its level number
    split at hline
    · rename_i heq
      obtain ⟨rfl, rfl⟩ := List.cons.inj (Prod.mk.inj (Option.some.inj heq)).2
      exact ⟨_, rfl⟩
    · cases hline

theorem xref_of_ofBody? {level : Nat} {xref : Option String} {t : Text} {line : Line}
    (h : ofBody? level xref t = some line) : line.xref = xref ∧ (takeTag? t).isSome = true := by
  unfold ofBody? at h
  split at h
  · rename_i tag rest htag
    split at h
    · cases h
    · rw [← Option.some.inj h, htag]
      exact ⟨rfl, rfl⟩
  · cases h

/-- How a record line is read that is written without leading zeros. -/
theorem ofLine?_zero {u : Text} {line : Line} (h : ofLine? ('0' :: ' ' :: u) = some line) :
    (∃ xref body, takeXref? u = some (xref, ' ' :: body) ∧
      ofBody? 0 (some xref) body = some line) ∨
    ((∀ xref body, takeXref? u ≠ some (xref, ' ' :: body)) ∧ ofBody? 0 none u = some line) := by
  have hlevel : takeLevel? ('0' :: ' ' :: u) = some (0, ' ' :: u) := rfl
  rw [ofLine?, hlevel] at h
  split at h
  · rename_i heq
    obtain ⟨rfl, hrest⟩ := Prod.mk.inj (Option.some.inj heq)
    obtain rfl := (List.cons.inj hrest).2
    split at h
    · rename_i xref body hu
      exact .inl ⟨xref, body, hu, h⟩
    · rename_i hnone
      exact .inr ⟨hnone, h⟩
  · cases h

/-- The identifier of a record line is found in the text of the record. -/
theorem recordXref?_of_isPlain {l : Text} {line : Line} (hline : ofLine? l = some line)
    (hl : isLegible 0 l = true) (hplain : isPlain l = true) (t : Text) :
    recordXref? (l ++ '\n' :: t) = line.xref := by
  obtain ⟨u, rfl⟩ := exists_of_isPlain hl hplain
  rw [List.cons_append, List.cons_append, recordXref?, takeXref?_append (by decide) (by decide)]
  -- both readings ask for an identifier and for a blank after it
  rcases ofLine?_zero hline with ⟨xref, body, hu, hbody⟩ | ⟨hnone, hbody⟩
  · obtain ⟨hxref, htag⟩ := xref_of_ofBody? hbody
    obtain ⟨found, htag⟩ := Option.isSome_iff_exists.mp htag
    rw [hu, hxref]
    show (takeTag? (body ++ '\n' :: t)).map (fun _ => xref) = some xref
    rw [takeTag?_append (by decide), htag]
    rfl
  · rw [(xref_of_ofBody? hbody).1]
    cases hu : takeXref? u with
    | none => rfl
    | some found =>
      obtain ⟨xref, after⟩ := found
      cases after with
      | nil => rfl
      | cons c body =>
        have hc : c ≠ ' ' := fun hc => hnone xref body (hc ▸ hu)
        simp [hc]

/-! ## What stands in front of a value -/

/-- What a line says in front of its value: its level, identifier and tag. -/
def heading? (l : Text) : Option (Nat × Option String × String) :=
  (ofLine? l).map fun line => (line.level, line.xref, line.tag)

theorem takeLevel?_append {stop : Char} (hstop : stop.isDigit = false) (u t : Text) :
    takeLevel? (u ++ stop :: t) =
      (takeLevel? u).map fun (level, after) => (level, after ++ stop :: t) := by
  obtain ⟨htake, hdrop⟩ := takeWhile_append_stop hstop u t
  unfold takeLevel?
  rw [htake, hdrop]
  dsimp only
  split <;> rfl

theorem exists_of_takeLevel? {u after : Text} {level : Nat}
    (h : takeLevel? u = some (level, after)) :
    ∃ digits, u = digits ++ after ∧ ∀ c ∈ digits, c.isDigit = true := by
  rw [takeLevel?] at h
  split at h
  · cases h
  · obtain ⟨_, rfl⟩ := Prod.mk.inj (Option.some.inj h)
    exact ⟨_, List.takeWhile_append_dropWhile.symm, fun c hc => List.mem_takeWhile_imp hc⟩

theorem takeXref?_suffix {u after : Text} {xref : String} (h : takeXref? u = some (xref, after)) :
    '@' :: after <:+ u := by
  obtain ⟨rfl, _⟩ := takeXref?_eq_some.mp h
  exact ⟨'@' :: xref.toList, rfl⟩

theorem map_tag_ofBody?_append (level : Nat) (xref : Option String) (u t : Text) :
    (ofBody? level xref (u ++ ' ' :: t)).map (fun line => (line.level, line.xref, line.tag)) =
      (takeTag? u).bind fun (tag, after) =>
        if startsWord (after ++ [' ']) then none else some (level, xref, tag) := by
  rw [ofBody?, takeTag?_append (by decide)]
  cases takeTag? u with
  | none => rfl
  | some found =>
    obtain ⟨tag, after⟩ := found
    have hword : startsWord (after ++ ' ' :: t) = startsWord (after ++ [' ']) := by
      cases after <;> rfl
    simp only [Option.map_some, Option.bind_some, hword]
    split <;> rfl

/-- **What a line says in front of a word that has ended** does not depend on what follows, if the
word ends like a tag. -/
theorem heading?_append {u : Text} (hu : u.getLast? = some 'E') (t t' : Text) :
    heading? (u ++ ' ' :: t) = heading? (u ++ ' ' :: t') := by
  have hlast : ∀ c after, c :: after <:+ u → c ≠ 'E' → after ≠ [] := by
    rintro c after ⟨x, rfl⟩ hc rfl
    rw [List.getLast?_concat] at hu
    exact hc (Option.some.inj hu)
  rw [heading?, heading?, ofLine?, ofLine?, takeLevel?_append (by decide),
    takeLevel?_append (by decide)]
  cases hlevel : takeLevel? u with
  | none => rfl
  | some found =>
    obtain ⟨level, after⟩ := found
    obtain ⟨digits, hdigits, hall⟩ := exists_of_takeLevel? hlevel
    cases after with
    | nil =>
      rw [List.append_nil] at hdigits
      exact absurd (hall 'E' (hdigits ▸ List.mem_of_getLast? hu)) (by decide)
    | cons c rest =>
      have hrest : c :: rest <:+ u := ⟨digits, hdigits.symm⟩
      by_cases hc : c = ' '
      · subst hc
        have hbody : ∀ xref v, (ofBody? level xref (v ++ ' ' :: t)).map _ =
            (ofBody? level xref (v ++ ' ' :: t')).map _ := fun xref v =>
          (map_tag_ofBody?_append level xref v t).trans
            (map_tag_ofBody?_append level xref v t').symm
        have hstop : ∀ v, takeXref? (rest ++ ' ' :: v) = _ :=
          takeXref?_append (by decide) (by decide) rest
        simp only [Option.map_some, List.cons_append, hstop]
        cases hxref : takeXref? rest with
        | none => exact hbody none rest
        | some found =>
          obtain ⟨xref, after⟩ := found
          cases after with
          | nil => exact absurd rfl (hlast '@' [] ((takeXref?_suffix hxref).trans
              ((List.suffix_cons _ rest).trans hrest)) (by decide))
          | cons d body =>
            by_cases hd : d = ' '
            · subst hd
              exact hbody (some xref) body
            · simpa [hd] using hbody none rest
      · simp [hc]

end Line

end Gedcom
