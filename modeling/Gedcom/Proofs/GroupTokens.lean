import Gedcom.Proofs.ClosingParen

/-!
# Expressions in parentheses

What is read of an expression does not depend on a closing parenthesis that is put behind it, or
on groups that are open around it (`next?_closed`): only where the expression ends, the
parenthesis is read, and ends the innermost of these groups, or a comment hides it
(`scan?_closed`).

**Expressions as groups of their own** (`ofText?_grouped`).  Parentheses around an expression are
tokens around its tokens, unless the expression ends in a comment; then the group is never
closed, and there are no tokens.
-/
namespace Gedcom.Regex.Token
variable {f : Flags} {t r s : Text} {c : Char}

/-! ## Groups and flags -/

theorem takeName?_append {name : String} (h : takeName? t = some (name, r)) :
    takeName? (t ++ [')']) = some (name, r ++ [')']) := by
  unfold takeName? at h ⊢
  dsimp only at h ⊢
  split at h
  · next u c v hdrop htake =>
    obtain ⟨htake', hdrop'⟩ := takeWhile_append_paren hdrop
    rw [htake', hdrop', htake]
    dsimp only
    split_ifs at h ⊢
    cases h
    rw [htake]
  · cases h

theorem takeFlags?_append {seen seen' : List Char} {g : Flags}
    (h : takeFlags? seen f t = some (g, seen', r)) :
    takeFlags? seen f (t ++ [')']) = some (g, seen', r ++ [')']) := by
  induction t generalizing seen f with
  | nil => cases h
  | cons c t ih =>
    rw [List.cons_append]
    unfold takeFlags? at h ⊢
    split_ifs at h ⊢
    · cases h
      rfl
    · exact ih h
    · split at h
      · exact ih h
      · cases h

/-- A place inside of some more groups. -/
def Scope.within (outer : List Flags) (sc : Scope) : Scope :=
  { sc with outer := sc.outer ++ outer }

theorem Scope.within_nil (sc : Scope) : sc.within [] = sc := by
  rw [Scope.within, List.append_nil]

@[simp] theorem Scope.flags_within (outer : List Flags) (sc : Scope) :
    (sc.within outer).flags = sc.flags :=
  rfl

theorem takeGroup?_of_ne {sc : Scope} (h : ∀ r, skip sc.flags t ≠ '?' :: r) :
    takeGroup? sc t =
      some (.openGroup none, { sc with outer := sc.flags :: sc.outer }, skip sc.flags t) := by
  unfold takeGroup?
  dsimp only
  split
  · next heq => exact absurd heq (h _)
  · next heq => exact absurd heq (h _)
  · next heq => exact absurd heq (h _)
  · rfl

theorem takeGroup?_closed {sc sc' : Scope} {tok : Token}
    (h : takeGroup? sc t = some (tok, sc', r)) :
    ∃ s, Closed r s ∧ ∀ outer,
      takeGroup? (sc.within outer) (t ++ [')']) = some (tok, sc'.within outer, s) := by
  by_cases hmark : ∃ u, skip sc.flags t = '?' :: u
  · obtain ⟨u, hskip⟩ := hmark
    unfold takeGroup? at h ⊢
    dsimp only [Scope.flags_within] at h ⊢
    rw [hskip] at h
    rw [skip_append hskip]
    split at h
    · next v heq =>
      obtain ⟨⟨name, w⟩, hname, hgroup⟩ := Option.map_eq_some_iff.mp h
      obtain rfl := (List.cons.inj heq).2
      cases hgroup
      simp only [List.cons_append, takeName?_append hname, Option.map_some]
      exact ⟨_, .shown _, fun _ => rfl⟩
    · next v heq =>
      obtain ⟨⟨name, w⟩, hname, hgroup⟩ := Option.map_eq_some_iff.mp h
      obtain rfl := (List.cons.inj heq).2
      cases hgroup
      simp only [List.cons_append, takeName?_append hname, Option.map_some]
      exact ⟨_, .shown _, fun _ => rfl⟩
    · next v hp hangle heq =>
      obtain rfl := (List.cons.inj heq).2
      split
      · next heq =>
        obtain ⟨w, hw⟩ := eq_of_append_paren (by decide) (List.cons.inj heq).2
        exact absurd hw (hp w)
      · next heq =>
        obtain ⟨w, hw⟩ := eq_of_append_paren (t := '?' :: u) (by decide) heq
        exact absurd (List.cons.inj hw).2 (hangle w)
      · next heq =>
        obtain rfl := (List.cons.inj heq).2
        split at h
        · next g seen v hread =>
          cases h
          simp only [takeFlags?_append hread, List.cons_append]
          exact ⟨_, .shown _, fun _ => rfl⟩
        · next g seen d v hd hread =>
          split_ifs at h with hseen
          cases h
          rw [takeFlags?_append hread]
          split
          · next heq =>
            have hrest := (Prod.mk.inj (Prod.mk.inj (Option.some.inj heq)).2).2
            exact absurd (List.cons.inj hrest).1 hd
          · next heq =>
            cases heq
            exact ⟨_, .shown _, fun _ => if_neg hseen⟩
          · next hnot => exact absurd rfl (hnot _ _ _ _)
        · cases h
      · next heq => exact absurd rfl (heq _)
    · next hnot => exact absurd rfl (hnot u)
  · have hne : ∀ u, skip sc.flags t ≠ '?' :: u := fun u hu => hmark ⟨u, hu⟩
    rw [takeGroup?_of_ne hne] at h
    cases h
    exact ⟨_, skip_closed sc.flags t, fun outer =>
      takeGroup?_of_ne ((skip_closed sc.flags t).ne_cons (by decide) hne)⟩

/-! ## Repetitions -/

theorem lazily_closed (f : Flags) (min : Nat) (max : Option Nat) (h : Closed t s) :
    (lazily f min max s).1 = (lazily f min max t).1 ∧
      Closed (lazily f min max t).2 (lazily f min max s).2 := by
  cases h with
  | hidden => exact ⟨rfl, .hidden⟩
  | shown =>
    cases t with
    | nil => exact ⟨rfl, .shown []⟩
    | cons c t =>
      rw [List.cons_append]
      by_cases hc : c = '?'
      · subst hc
        exact ⟨rfl, .shown t⟩
      · rw [lazily, lazily]
        · exact ⟨rfl, .shown (c :: t)⟩
        all_goals exact fun u heq => absurd (List.cons.inj heq).1 hc

theorem takeCount?_append {n : Option Nat} (h : takeCount? f t = (n, c :: r)) :
    takeCount? f (t ++ [')']) = (n, c :: (r ++ [')'])) := by
  have hlength : (t.dropWhile Text.isBlank).length ≤ t.length := (List.dropWhile_suffix _).length_le
  rcases hdigits : takeSpaced f Char.isDigit t.length (t.dropWhile Text.isBlank) with ⟨digits, rest⟩
  rw [takeCount?, hdigits] at h
  obtain ⟨rfl, hrest⟩ := Prod.mk.inj h
  cases rest with
  | nil =>
    rw [List.dropWhile_nil, skip_nil] at hrest
    cases hrest
  | cons d rest =>
    rw [takeCount?, dropWhile_append_paren (by decide), List.length_append,
      List.length_singleton, takeSpaced_append hlength hdigits, ← List.cons_append]
    dsimp only
    rw [dropWhile_append_paren (by decide), skip_append hrest]

theorem takeCount?_skip_append {n : Option Nat} (h : takeCount? f (skip f t) = (n, c :: r)) :
    takeCount? f (skip f (t ++ [')'])) = (n, c :: (r ++ [')'])) := by
  have hskip : skip f t ≠ [] := by
    intro hnil
    have hrest := congrArg Prod.snd (hnil ▸ h)
    rw [takeCount?, List.dropWhile_nil, takeSpaced_nil] at hrest
    dsimp only at hrest
    rw [List.dropWhile_nil, skip_nil] at hrest
    cases hrest
  rw [skip_append_of_ne_nil hskip]
  exact takeCount?_append h

theorem takeTimes?_closable (f : Flags) : Closable (takeTimes? f) := by
  intro t tok r h
  have hlazily : ∀ min max u, some (lazily f min max (skip f u)) = some (tok, r) →
      ∃ s, some (lazily f min max (skip f (u ++ [')']))) = some (tok, s) ∧ Closed r s := by
    intro min max u h
    obtain ⟨htok, hrest⟩ := lazily_closed f min max (skip_closed f u)
    rw [Option.some.inj h] at htok hrest
    refine ⟨_, ?_, hrest⟩
    exact congrArg some (Prod.ext htok rfl)
  unfold takeTimes? at h ⊢
  split at h
  · next least u hcount =>
    simp only [takeCount?_skip_append hcount]
    exact hlazily least (some least) u h
  · next least u hcount =>
    simp only [takeCount?_skip_append hcount]
    split at h
    · next v hskip =>
      simp only [skip_append hskip]
      exact hlazily least none v h
    · next hbrace =>
      split at h
      · next most v hmost =>
        split_ifs at h with hle
        obtain ⟨s, hs, hclosed⟩ := hlazily least (some most) v h
        refine ⟨s, ?_, hclosed⟩
        split
        · next w heq =>
          exact absurd heq ((skip_closed f u).ne_cons (by decide) hbrace w)
        · simp only [takeCount?_skip_append hmost, if_pos hle, hs]
      · cases h
  · cases h

/-! ## Whole expressions -/

/-- The characters that do not stand for a character or an escape. -/
def signs : List Char := ['(', ')', '|', '[', '?', '*', '+', '{', '.', '^', '$']

theorem next?_of_not_mem {sc : Scope} (hc : c ∉ signs) :
    next? sc (c :: t) =
      (takeAtom? sc.flags (c :: t)).map fun (u, r) => (ofAtom sc.flags u, sc, r) := by
  rw [next?]
  · exact List.cons_ne_nil c t
  all_goals
    intro u heq
    exact hc (by rw [(List.cons.inj heq).1]; decide)

theorem next?_closed {sc sc' : Scope} {tok : Token} (h : next? sc t = some (tok, sc', r)) :
    ∃ s, Closed r s ∧
      ∀ outer, next? (sc.within outer) (t ++ [')']) = some (tok, sc'.within outer, s) := by
  have hlazily : ∀ min max u,
      some ((lazily sc.flags min max u).1, sc, (lazily sc.flags min max u).2) = some (tok, sc', r) →
      ∃ s, Closed r s ∧ ∀ outer,
        some ((lazily sc.flags min max (u ++ [')'])).1, sc.within outer,
          (lazily sc.flags min max (u ++ [')'])).2) = some (tok, sc'.within outer, s) := by
    intro min max u h
    obtain ⟨htok, hrest⟩ := lazily_closed sc.flags min max (.shown u)
    cases h
    exact ⟨_, hrest, fun _ => by rw [htok]⟩
  cases t with
  | nil => cases h
  | cons c t =>
    rw [List.cons_append]
    by_cases hc : c ∈ signs
    · simp only [signs, List.mem_cons, List.not_mem_nil, or_false] at hc
      -- one case for each sign, in the order in which `signs` lists them
      obtain rfl | rfl | rfl | rfl | rfl | rfl | rfl | rfl | rfl | rfl | rfl := hc
      · exact takeGroup?_closed h
      · simp only [next?] at h ⊢
        split at h
        · cases h
        · next f fs houter =>
          cases h
          simp only [Scope.within, houter, List.cons_append]
          exact ⟨_, .shown _, fun _ => rfl⟩
      · cases h
        exact ⟨_, .shown _, fun _ => rfl⟩
      · simp only [next?] at h ⊢
        split at h
        · next b u hopen =>
          simp only [Scope.flags_within, takeBracket?_append hopen]
          obtain ⟨⟨x, v⟩, hset, htok⟩ := Option.map_eq_some_iff.mp h
          cases htok
          rw [takeSet?_append hset (m := (u ++ [')']).length + 1) (by simp)]
          exact ⟨_, .shown _, fun _ => rfl⟩
        · cases h
      · exact hlazily 0 (some 1) t h
      · exact hlazily 0 none t h
      · exact hlazily 1 none t h
      · obtain ⟨⟨x, v⟩, htimes, htok⟩ := Option.map_eq_some_iff.mp h
        cases htok
        obtain ⟨s, hs, hclosed⟩ := takeTimes?_closable sc.flags htimes
        refine ⟨s, hclosed, fun outer => ?_⟩
        rw [next?, Scope.flags_within, hs]
        rfl
      · obtain ⟨x, hdot, htok⟩ := Option.map_eq_some_iff.mp h
        cases htok
        refine ⟨_, .shown _, fun outer => ?_⟩
        rw [next?, Scope.flags_within, hdot]
        rfl
      · cases h
        exact ⟨_, .shown _, fun _ => rfl⟩
      · cases h
        exact ⟨_, .shown _, fun _ => rfl⟩
    · rw [next?_of_not_mem hc] at h
      obtain ⟨⟨x, v⟩, hatom, htok⟩ := Option.map_eq_some_iff.mp h
      cases htok
      obtain ⟨s, hs, hclosed⟩ := takeAtom?_closable sc.flags hatom
      refine ⟨s, hclosed, fun outer => ?_⟩
      rw [List.cons_append] at hs
      rw [next?_of_not_mem hc, Scope.flags_within, hs]
      rfl

theorem scan?_of_skip_nil {n : Nat} {sc : Scope} (h : skip sc.flags t = []) :
    scan? (n + 1) sc t = if sc.outer.isEmpty then some [] else none := by
  rw [scan?, h]

theorem scan?_of_skip_cons {n : Nat} {sc : Scope} (h : skip sc.flags t = c :: r) :
    scan? (n + 1) sc t =
      (next? sc (c :: r)).bind fun (tok, sc, r) => (scan? n sc r).map (tok :: ·) := by
  rw [scan?, h]
  dsimp only
  cases next? sc (c :: r) <;> rfl

/-- Where an expression ends, the closing parenthesis is read, unless a comment hides it. -/
theorem scan?_closed_of_skip_nil {sc : Scope} (houter : sc.outer = [])
    (hskip : skip sc.flags t = []) (hclosed : Closed t s) :
    (∀ m, 1 < m → (∀ f, scan? m (sc.within [f]) s = some [.close]) ∧ scan? m sc s = none) ∨
      (∀ m, 0 < m → (∀ f, scan? m (sc.within [f]) s = none) ∧ scan? m sc s = some []) := by
  obtain ⟨flags, outer⟩ := sc
  obtain rfl : outer = [] := houter
  have hskip' := hclosed.skip flags
  rw [hskip] at hskip'
  generalize hs : skip flags s = s' at hskip'
  cases hskip' with
  | shown =>
    left
    intro m hm
    obtain ⟨m, rfl⟩ : ∃ k, m = k + 2 := ⟨m - 2, by omega⟩
    refine ⟨fun f => ?_, ?_⟩
    · rw [scan?_of_skip_cons hs]
      exact congrArg (Option.map (Token.close :: ·)) (scan?_of_skip_nil (skip_nil f))
    · rw [scan?_of_skip_cons hs]
      rfl
  | hidden =>
    right
    intro m hm
    obtain ⟨m, rfl⟩ : ∃ k, m = k + 1 := ⟨m - 1, by omega⟩
    refine ⟨fun f => ?_, ?_⟩
    · rw [scan?_of_skip_nil hs]
      rfl
    · rw [scan?_of_skip_nil hs]
      rfl

/-- **A closing parenthesis behind an expression** ends a group around it, and without such a
group is an error; or a comment hides it, and it is as good as nothing. -/
theorem scan?_closed {n : Nat} {sc : Scope} {toks : List Token} (h : scan? n sc t = some toks)
    (hclosed : Closed t s) :
    (∀ m, n < m →
        (∀ f, scan? m (sc.within [f]) s = some (toks ++ [.close])) ∧ scan? m sc s = none) ∨
      (∀ m, n < m → (∀ f, scan? m (sc.within [f]) s = none) ∧ scan? m sc s = some toks) := by
  -- The induction is on the number of steps: a token is read off both texts, and what is left
  -- of them stays related.
  induction n generalizing sc t s toks with
  | zero => cases h
  | succ n ih =>
    cases hskip : skip sc.flags t with
    | nil =>
      rw [scan?_of_skip_nil hskip] at h
      split_ifs at h with houter
      cases h
      refine (scan?_closed_of_skip_nil (List.isEmpty_iff.mp houter) hskip hclosed).imp ?_ ?_
      all_goals
        intro hend m hnm
        exact hend m (by omega)
    | cons c u =>
      have hskip' := hclosed.skip sc.flags
      rw [hskip] at hskip'
      rw [scan?_of_skip_cons hskip] at h
      obtain ⟨⟨tok, sc', r⟩, hnext, h⟩ := Option.bind_eq_some_iff.mp h
      obtain ⟨toks, hscan, rfl⟩ := Option.map_eq_some_iff.mp h
      obtain ⟨s', hclosed', hnext'⟩ := next?_closed hnext
      have hstep : ∀ m outer, scan? (m + 1) (sc.within outer) s =
          (scan? m (sc'.within outer) s').map (tok :: ·) := by
        intro m outer
        have hs : skip (sc.within outer).flags s = c :: (u ++ [')']) := hskip'.eq_of_cons
        rw [scan?_of_skip_cons hs, ← List.cons_append, hnext' outer, Option.bind_some]
      have hplain : ∀ m, scan? (m + 1) sc s = (scan? m sc' s').map (tok :: ·) := by
        intro m
        rw [← sc.within_nil, ← sc'.within_nil]
        exact hstep m []
      refine (ih hscan hclosed').imp ?_ ?_
      all_goals
        intro hrest m hnm
        obtain ⟨m, rfl⟩ : ∃ k, m = k + 1 := ⟨m - 1, by omega⟩
        obtain ⟨hin, hout⟩ := hrest m (Nat.lt_of_succ_lt_succ hnm)
        refine ⟨fun f => ?_, ?_⟩
        · rw [hstep, hin]
          rfl
        · rw [hplain, hout]
          rfl

/-! ## Expressions as groups of their own -/

/-- Whether an expression ends in a comment: a closing parenthesis behind it is not read. -/
def EndsInComment (t : Text) : Prop := ofText? (t ++ [')']) = ofText? t

instance (t : Text) : Decidable (EndsInComment t) :=
  inferInstanceAs (Decidable (_ = _))

/-- An expression as a group of its own, whose text is not kept. -/
def grouped (t : Text) : Text := '(' :: '?' :: ':' :: (t ++ [')'])

theorem ofText?_grouped_eq (t : Text) :
    ofText? (grouped t) =
      (scan? (t.length + 4) (Scope.within [{}] {}) (t ++ [')'])).map (.openPlain :: ·) := by
  have hlength : (grouped t).length + 1 = t.length + 4 + 1 := by simp [grouped]
  rw [ofText?, hlength]
  exact scan?_of_skip_cons (c := '(') (r := '?' :: ':' :: (t ++ [')'])) rfl

/-- **The tokens of an expression as a group of its own** are its tokens in parentheses, unless
it ends in a comment: then the group is never closed. -/
theorem ofText?_grouped {toks : List Token} (h : ofText? t = some toks) :
    ofText? (grouped t) =
      if EndsInComment t then none else some (.openPlain :: (toks ++ [.close])) := by
  have hlength : ofText? (t ++ [')']) = scan? (t.length + 2) {} (t ++ [')']) := by
    rw [ofText?, List.length_append, List.length_singleton]
  rw [ofText?_grouped_eq]
  obtain hshown | hhidden := scan?_closed h (.shown t)
  · obtain ⟨-, hplain⟩ := hshown (t.length + 2) (by omega)
    have hcomment : ¬EndsInComment t := by
      rw [EndsInComment, hlength, hplain, h]
      exact nofun
    rw [if_neg hcomment, (hshown (t.length + 4) (by omega)).1]
    rfl
  · obtain ⟨-, hplain⟩ := hhidden (t.length + 2) (by omega)
    have hcomment : EndsInComment t := by
      rw [EndsInComment, hlength, hplain, h]
    rw [if_pos hcomment, (hhidden (t.length + 4) (by omega)).1]
    rfl

end Gedcom.Regex.Token
