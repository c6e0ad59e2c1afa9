import Gedcom.Proofs.RuleFileLayout

/-!
# Substitutions whose strings share a delimiter

A rule file writes a substitution as two delimited strings.  Where they are written `#a/b##c/d#`
or `#a/b# #c/d#`, every search and every replacement can be had.  Where they are written
`#a/b#c/d#`, with one delimiter between them, the scanner of the second string looks for a
delimiter that the first string has used up: what it finds instead is the replacement itself, or
the delimiter at its end.  So no text of this form is ever read, and the file is refused at its
line (`ofText_shared`).
-/
namespace Gedcom.RuleFile
open Text

/-- A line asks for the substitution that a text writes. -/
inductive Changes (rest : Text) : Text → Prop
  | intro {t u l : Text} (ht : Clause "CHANGE" rest t) (hu : Padded t u)
      (hl : Padded ('|' :: u) l) : Changes rest l

/-- Two strings with one delimiter between them. -/
def shared (c : Char) (search replacement : Text) : Text :=
  [c] ++ (search ++ c :: replacement) ++ [c]

/-- Two strings with delimiters of their own. -/
def separate (c : Char) (search gap replacement : Text) : Text :=
  [c] ++ (search ++ c :: (gap ++ c :: replacement)) ++ [c]

/-- What is found in place of the delimiter of a second string. -/
def sharedProblem (c : Char) (replacement : Text) : RuleFileProblem :=
  match trimLeft replacement with
  | [] => .openString c
  | d :: _ => .otherDelimiter c d

theorem isTight_delimited {c : Char} (hc : isBlank c = false) (t : Text) :
    IsTight ([c] ++ t ++ [c]) := by
  have hsingle : IsTight [c] := isTight_of_forall (List.cons_ne_nil _ [])
    fun d hd => (List.mem_singleton.mp hd) ▸ hc
  exact hsingle.append hsingle t

/-! ## Reading the two strings -/

section Strings
variable {c : Char} (hc : isBlank c = false) {search replacement : Text}
  (hsearch : c ∉ search) (hreplacement : c ∉ replacement)
include hc

include hreplacement in
/-- The second string is looked for in vain: its delimiter is gone. -/
theorem delimited_eq_sharedProblem :
    delimited (some c) (replacement ++ [c]) = .error (sharedProblem c replacement) := by
  cases hr : trimLeft replacement with
  | nil =>
    -- the blanks are skipped, and the last delimiter opens a string
    have hempty : (replacement.dropWhile isBlank).isEmpty = true := List.isEmpty_iff.mpr hr
    have htrim : trimLeft (replacement ++ [c]) = [c] := by
      rw [trimLeft, List.dropWhile_append, hempty, if_pos rfl]
      exact trimLeft_cons hc []
    have hopen : delimited (some c) ([] ++ c :: []) = .error (.openString c) :=
      delimited_eq_error (by simp) (List.forall_mem_nil _) hc List.not_mem_nil
    rw [delimited, List.nil_append, trimLeft_cons hc] at hopen
    rw [delimited, htrim, hopen, sharedProblem, hr]
  | cons d t =>
    have hd : d ∈ replacement := (List.dropWhile_sublist _).mem (hr ▸ List.mem_cons_self)
    have hne : (some c).any (· != d) = true := by
      have hcd : c ≠ d := fun he => hreplacement (he ▸ hd)
      simp [hcd]
    have htrim : trimLeft (replacement ++ [c]) = d :: (t ++ [c]) := by
      have hdrop : replacement.dropWhile isBlank = d :: t := hr
      rw [trimLeft, List.dropWhile_append, hdrop, List.isEmpty_cons, if_neg Bool.false_ne_true]
      rfl
    rw [delimited, htrim, sharedProblem, hr]
    show (if (some c).any (· != d) then _ else _) = _
    rw [hne, if_pos rfl, Option.getD_some]

include hsearch hreplacement

/-- **Two strings with one delimiter between them write nothing.** -/
theorem change_shared : change (shared c search replacement) =
    .error (sharedProblem c replacement) := by
  have hfirst : delimited none ([] ++ c :: (search ++ c :: (replacement ++ [c]))) = .ok _ :=
    delimited_eq rfl (List.forall_mem_nil _) hc hsearch _
  have hshape : shared c search replacement =
      [] ++ c :: (search ++ c :: (replacement ++ [c])) := by
    simp [shared]
  rw [hshape, change, if_neg (by simp), hfirst]
  show delimited (some c) _ >>= _ = _
  rw [delimited_eq_sharedProblem hc hreplacement]
  rfl

end Strings

/-! ## Reading a file up to a line -/

/-- Lines are read one after the other. -/
theorem Draft.readLines_append (d : Draft) (number : Nat) (ls ls' : List Text) :
    d.readLines number (ls ++ ls') =
      d.readLines number ls >>= fun d' => d'.readLines (number + ls.length) ls' := by
  induction ls generalizing d number with
  | nil => rfl
  | cons l ls ih =>
    rw [List.cons_append, Draft.readLines, Draft.readLines]
    cases d.readLine l with
    | error p => rfl
    | ok d =>
      show d.readLines (number + 1) (ls ++ ls') = _
      rw [ih, List.length_cons, Nat.add_assoc, Nat.add_comm 1]

/-- A file is refused at its first line that cannot be read. -/
theorem ofText_of_readLine_error {before after : List Text} {l : Text} {d : Draft}
    {p : RuleFileProblem} (hlines : ∀ k ∈ before ++ l :: after, '\n' ∉ k)
    (hbefore : Draft.readLines {} 1 before = .ok d) (hl : d.readLine l = .error p) :
    ofText (joinLines (before ++ l :: after)) = .error (.ruleFile (before.length + 1) p) := by
  have hread : Draft.readLines {} 1 (linesOf (joinLines (before ++ l :: after))) =
      .error (.ruleFile (before.length + 1) p) := by
    rw [readLines_linesOf (by simp) hlines, Draft.readLines_append, hbefore, Nat.add_comm]
    show d.readLines _ (l :: after) = _
    rw [Draft.readLines, hl]
  rw [ofText, hread]
  rfl

section Lines
variable {rest l : Text}

theorem Changes.ofLine?_eq (h : Changes rest l) (hrest : IsTight rest) :
    Statement.ofLine? l =
      (fun s => some (Statement.operation (.substitute s))) <$> change rest := by
  cases h with
  | intro ht hu hl =>
    rw [ofLine?_of_clause (by decide) (by decide) hrest ht hu hl]
    show some <$> (fun s => Statement.operation (.substitute s)) <$> change rest = _
    cases change rest <;> rfl

theorem Changes.newline_notMem (h : Changes rest l) (hrest : '\n' ∉ rest) : '\n' ∉ l := by
  cases h with
  | intro ht hu hl =>
    cases ht with
    | intro ht _ hgap =>
      refine hl.newline_notMem ?_
      refine List.not_mem_cons_of_ne_of_not_mem (by decide) (hu.newline_notMem ?_)
      simp only [List.mem_append, not_or]
      exact ⟨⟨newline_notMem_of_spells (by decide) ht, newline_notMem_of_isGap hgap⟩, hrest⟩

end Lines

/-! ## Files -/

/-- **A file with a shared delimiter is refused**, whatever the delimiter, the search and the
replacement are: the problem is named at the line of the substitution.  With a delimiter for each
of its strings the same line adds the substitution to the rule that is open. -/
theorem ofText_shared {before after : List Text} {d : Draft} {pattern : String}
    (hbefore : Draft.readLines {} 1 before = .ok d) (hrule : d.block = .ofRule pattern)
    (hlines : ∀ k ∈ before ++ after, '\n' ∉ k) {c : Char} {search replacement : Text}
    (hc : isBlank c = false) (hsearch : c ∉ search) (hreplacement : c ∉ replacement)
    (hsearchLine : '\n' ∉ search) (hreplacementLine : '\n' ∉ replacement) :
    (∀ l, Changes (shared c search replacement) l →
      ofText (joinLines (before ++ l :: after)) =
        .error (.ruleFile (before.length + 1) (sharedProblem c replacement))) ∧
    ∀ gap l, IsGap gap → Changes (separate c search gap replacement) l →
      Draft.readLines {} 1 (before ++ [l]) =
        .ok { d with
          rules := d.rules.insert pattern (((d.rules.find? pattern).map (·.ops)).getD [] ++
            [.substitute ⟨String.ofList search, String.ofList (unescape replacement)⟩]) } := by
  refine ⟨fun l hl => ?_, fun gap l hgap hl => ?_⟩
  · have hne : '\n' ≠ c := by
      rintro rfl
      exact absurd hc (by decide)
    have hnewline : '\n' ∉ l := by
      refine hl.newline_notMem ?_
      simp only [shared, List.mem_append, List.mem_cons, List.not_mem_nil, or_false, not_or]
      exact ⟨⟨hne, hsearchLine, hne, hreplacementLine⟩, hne⟩
    have hall : ∀ k ∈ before ++ l :: after, '\n' ∉ k := by
      intro k hk
      rcases List.mem_append.mp hk with hk | hk
      · exact hlines k (List.mem_append_left _ hk)
      rcases List.mem_cons.mp hk with rfl | hk
      · exact hnewline
      · exact hlines k (List.mem_append_right _ hk)
    refine ofText_of_readLine_error hall hbefore ?_
    rw [Draft.readLine, hl.ofLine?_eq (isTight_delimited hc _),
      change_shared hc hsearch hreplacement]
    rfl
  · have hline : d.readLine l = d.attach
        (.substitute ⟨String.ofList search, String.ofList (unescape replacement)⟩) := by
      rw [Draft.readLine, hl.ofLine?_eq (isTight_delimited hc _),
        separate, change_eq hc hsearch hreplacement hgap]
      rfl
    rw [Draft.readLines_append, hbefore]
    show d.readLines _ [l] = _
    rw [Draft.readLines, hline, Draft.attach, hrule]
    rfl

/-- The lines that open a rule. -/
def ruleLines : List Text := ["FILTER Cut".toList, "RULE *".toList]

/-- The documented `CHANGE #a/b#c/d#` is refused, and `CHANGE #a/b##c/d#` is not. -/
theorem ofText_shared_hash :
    ofText "FILTER Cut\nRULE *\n| CHANGE #a/b#c/d#\n".toList =
        .error (.ruleFile 3 (.otherDelimiter '#' 'c')) ∧
      Draft.readLines {} 1 (ruleLines ++ ["| CHANGE #a/b##c/d#".toList]) =
        .ok { name? := some "Cut", block := .ofRule "*",
              rules := ⟨[⟨"*", [.substitute ⟨"a/b", "c/d"⟩]⟩]⟩ } := by
  have hread : Draft.readLines {} 1 ruleLines =
      .ok { name? := some "Cut", block := .ofRule "*", rules := ⟨[⟨"*", []⟩]⟩ } := by
    decide
  have hline : ∀ rest : Text, Changes rest ("| CHANGE ".toList ++ rest) := fun rest => by
    have hspace : IsGap [' '] := by decide
    have hkeyword : Spells "CHANGE".toList "CHANGE".toList := by decide
    exact .intro (.intro hkeyword (List.cons_ne_nil _ _) hspace) (.of_isGap hspace _)
      (.of_isGap (List.forall_mem_nil _) _)
  obtain ⟨hshared, hseparate⟩ := @ofText_shared ruleLines [[]] _ _ hread rfl (by decide) '#'
    "a/b".toList "c/d".toList (by decide) (by decide) (by decide) (by decide) (by decide)
  exact ⟨hshared _ (hline _), hseparate [] _ (by decide) (hline _)⟩

/-- A shared delimiter does not do what it is documented to do. -/
theorem not_forall_shared : ¬∀ (c : Char) (search replacement : Text), isBlank c = false →
    c ∉ search → c ∉ replacement → '\n' ∉ search → '\n' ∉ replacement →
      ∃ f, ofText ("FILTER Cut\nRULE *\n| CHANGE ".toList ++ shared c search replacement ++
          "\n".toList) = .ok f ∧
        f.rules.find? "*" = some ⟨"*",
          [.substitute ⟨String.ofList search, String.ofList (unescape replacement)⟩]⟩ := by
  intro h
  obtain ⟨f, hf, -⟩ := h '#' "a/b".toList "c/d".toList (by decide) (by decide) (by decide)
    (by decide) (by decide)
  have herror : ofText ("FILTER Cut\nRULE *\n| CHANGE ".toList ++
      shared '#' "a/b".toList "c/d".toList ++ "\n".toList) =
      .error (.ruleFile 3 (.otherDelimiter '#' 'c')) := by
    decide
  rw [herror] at hf
  cases hf

end Gedcom.RuleFile
