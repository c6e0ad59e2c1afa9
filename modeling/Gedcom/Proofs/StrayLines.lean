import Gedcom.Filter.Catalog
import Gedcom.Proofs.AnyText
import Gedcom.Proofs.Leftovers

/-!
# Stray lines

The filter that keeps everything is meant to lose nothing.  On a text of which some lines
are no lines of an outline this is not so: a line without a level number, or one that is
more than one level deeper than the line above, opens no entry, and what opens no entry is
lost.

`run_allRecords` says what happens on every text.  Either a line that opens an entry cannot
be read, and the filter fails with that line; or it writes the lines of all entries, and
then nothing that is not blank is lost exactly if the lines that are not blank can be read
one after the other (`isStepwise`).
-/
namespace Gedcom

/-! ## Lines that open no entry -/

namespace Text

/-- The lines of a text on which something is written. -/
def fullLines (t : Text) : List Text := (lines t).filter fun l => !l.all isBlank

end Text

/-- A blank line has no level. -/
theorem hasLevel_of_all_isBlank {l : Text} (hl : l.all Text.isBlank = true) (k : Nat) :
    hasLevel k l = false := by
  by_contra h
  rw [Bool.not_eq_false] at h
  obtain ⟨c, cs, rfl, hc⟩ := exists_digit_of_hasLevel h
  rw [List.all_cons, Text.isBlank_of_isDigit hc] at hl
  cases hl

namespace Outline

/-- The lines of the outline of some lines are some of them, in their order. -/
theorem lines_ofLines_sublist : ∀ (level : Nat) (ls : List Text),
    (ofLines level ls).lines.Sublist ls
  | _, [] => by
    rw [ofLines]
    exact List.Sublist.refl []
  | level, l :: ls => by
    cases hl : hasLevel level l with
    | false =>
      rw [ofLines_cons_of_neg hl]
      exact (lines_ofLines_sublist level ls).cons l
    | true =>
      rw [ofLines_cons_of_pos hl, lines]
      have hbelow := lines_ofLines_sublist (level + 1) (ls.takeWhile fun k => !hasLevel level k)
      have hafter := lines_ofLines_sublist level (ls.dropWhile fun k => !hasLevel level k)
      have hrest := hbelow.append hafter
      rw [List.takeWhile_append_dropWhile] at hrest
      exact hrest.cons_cons l
termination_by _ ls => ls.length
decreasing_by
  · exact Nat.lt_succ_self _
  · exact Nat.lt_succ_of_le (List.takeWhile_sublist _).length_le
  · exact Nat.lt_succ_of_le (List.dropWhile_sublist _).length_le

/-- The lines of an outline can be read one after the other. -/
theorem isStepwise_lines_append {level deepest : Nat} {o : Outline}
    (ho : o.isLegible level = true) (hlevel : level ≤ deepest) {ls : List Text}
    (hls : ∀ k, level ≤ k → isStepwise k ls = true) :
    isStepwise deepest (o.lines ++ ls) = true := by
  induction o generalizing level deepest ls with
  | empty => exact hls deepest hlevel
  | entry l below after ihbelow ihafter =>
    obtain ⟨hl, hbelow, hafter⟩ := isLegible_entry.mp ho
    rw [lines, List.cons_append, List.append_assoc]
    refine isStepwise_cons hlevel hl (ihbelow hbelow (Nat.le_refl _) fun k hk => ?_)
    exact ihafter hafter (Nat.le_of_succ_le hk) hls

theorem isStepwise_lines {level : Nat} {o : Outline} (ho : o.isLegible level = true) :
    isStepwise level o.lines = true := by
  rw [← List.append_nil o.lines]
  exact isStepwise_lines_append ho (Nat.le_refl level) fun _ _ => rfl

section Filter
variable {p : Text → Bool} (hp : ∀ l, p l = false → ∀ k, hasLevel k l = false)
include hp

theorem pos_of_hasLevel {level : Nat} {l : Text} (hl : hasLevel level l = true) : p l = true := by
  by_contra h
  rw [hp l (Bool.not_eq_true _ ▸ h) level] at hl
  cases hl

theorem takeWhile_filter (level : Nat) (ls : List Text) :
    ((ls.filter p).takeWhile fun k => !hasLevel level k) =
      (ls.takeWhile fun k => !hasLevel level k).filter p := by
  induction ls with
  | nil => rfl
  | cons l ls ih =>
    cases hl : hasLevel level l with
    | true =>
      have hpl := pos_of_hasLevel hp hl
      rw [List.filter_cons_of_pos hpl, List.takeWhile_cons_of_neg (by simp [hl]),
        List.takeWhile_cons_of_neg (by simp [hl]), List.filter_nil]
    | false =>
      rw [List.takeWhile_cons_of_pos (by simp [hl]), List.filter_cons, List.filter_cons]
      split
      · rw [List.takeWhile_cons_of_pos (by simp [hl]), ih]
      · exact ih

theorem dropWhile_filter (level : Nat) (ls : List Text) :
    ((ls.filter p).dropWhile fun k => !hasLevel level k) =
      (ls.dropWhile fun k => !hasLevel level k).filter p := by
  -- what is dropped and what is not make up the whole on both sides
  have hsplit := List.takeWhile_append_dropWhile (p := fun k => !hasLevel level k) (l := ls)
  have hfilter := congrArg (List.filter p) hsplit
  rw [List.filter_append, ← takeWhile_filter hp] at hfilter
  have hsplit' :=
    List.takeWhile_append_dropWhile (p := fun k => !hasLevel level k) (l := ls.filter p)
  exact List.append_cancel_left (hsplit'.trans hfilter.symm)

/-- Lines without a level have no say. -/
theorem ofLines_filter : ∀ (level : Nat) (ls : List Text),
    ofLines level (ls.filter p) = ofLines level ls
  | _, [] => rfl
  | level, l :: ls => by
    cases hl : hasLevel level l with
    | false =>
      rw [ofLines_cons_of_neg hl, List.filter_cons]
      split
      · rw [ofLines_cons_of_neg hl, ofLines_filter level ls]
      · exact ofLines_filter level ls
    | true =>
      have hpl := pos_of_hasLevel hp hl
      rw [List.filter_cons_of_pos hpl, ofLines_cons_of_pos hl, ofLines_cons_of_pos hl,
        takeWhile_filter hp, dropWhile_filter hp,
        ofLines_filter (level + 1) (ls.takeWhile fun k => !hasLevel level k),
        ofLines_filter level (ls.dropWhile fun k => !hasLevel level k)]
termination_by _ ls => ls.length
decreasing_by
  · exact Nat.lt_succ_self _
  · exact Nat.lt_succ_self _
  · exact Nat.lt_succ_of_le (List.takeWhile_sublist _).length_le
  · exact Nat.lt_succ_of_le (List.dropWhile_sublist _).length_le

end Filter

/-- **Which lines are lost.**  If the entries of an outline can be read, then they have all
lines on which something is written exactly if these can be read one after the other. -/
theorem fullLines_sublist_iff {t : Text} (ho : (ofLines 0 (Text.lines t)).isLegible 0 = true) :
    (Text.fullLines t).Sublist (ofLines 0 (Text.lines t)).lines ↔
      isStepwise 0 (Text.fullLines t) = true := by
  have hblank : ∀ l : Text, (!l.all Text.isBlank) = false → ∀ k, hasLevel k l = false :=
    fun l hl k => hasLevel_of_all_isBlank (by simpa using hl) k
  have hfull : ofLines 0 (Text.fullLines t) = ofLines 0 (Text.lines t) := ofLines_filter hblank 0 _
  constructor
  · intro hsublist
    have hback := lines_ofLines_sublist 0 (Text.fullLines t)
    rw [hfull] at hback
    rw [hsublist.antisymm hback]
    exact isStepwise_lines ho
  · intro hstep
    have hlines := (isLegible_lines_ofLines 0 _ hstep (isLegible_of_isStepwise hstep)).2
    rw [← hfull, hlines]

theorem isLegible_of_forall_mem_roots {o : Outline} (h : ∀ r ∈ o.roots, r.isLegible = true) :
    o.isLegible 0 = true := by
  induction o with
  | empty => rfl
  | entry l below after _ ihafter =>
    rw [roots, List.forall_mem_cons] at h
    obtain ⟨hl, hbelow⟩ := Bool.and_eq_true_iff.mp h.1
    exact isLegible_entry.mpr ⟨hl, hbelow, ihafter h.2⟩

/-! ## Lines that cannot be read -/

/-- The first line of an outline that cannot be read at its level. -/
def illegible? : (level : Nat) → Outline → Option Text
  | _, .empty => none
  | level, .entry l below after =>
    if Line.isLegible level l then (below.illegible? (level + 1)).or (after.illegible? level)
    else some l

theorem illegible?_eq_none {level : Nat} {o : Outline} :
    o.illegible? level = none ↔ o.isLegible level = true := by
  induction o generalizing level with
  | empty => exact iff_of_true rfl rfl
  | entry l below after ihbelow ihafter =>
    rw [illegible?, isLegible_entry]
    split
    · rename_i hl
      rw [Option.or_eq_none_iff, ihbelow, ihafter, and_iff_right hl]
    · rename_i hl
      exact iff_of_false (by simp) fun h => hl h.1

end Outline

namespace Record

/-- A record is an outline with one entry. -/
theorem lines_entry_empty (r : Record) : (Outline.entry r.head r.below .empty).lines = r.lines := by
  rw [Outline.lines, Outline.lines, List.append_nil, lines]

/-- The first line of a record that cannot be read at its level. -/
def illegible? (r : Record) : Option Text := (Outline.entry r.head r.below .empty).illegible? 0

theorem illegible?_eq_none {r : Record} : r.illegible? = none ↔ r.isLegible = true := by
  rw [illegible?, Outline.illegible?_eq_none, Outline.isLegible_entry, isLegible, Bool.and_eq_true,
    Outline.isLegible, and_iff_left rfl]

end Record

/-! ## The records of any text -/

/-- If its records can be read, a text begins with one of them: no line stands in front. -/
theorem flatMap_lines_records_eq {t : Text} (h : ∀ r ∈ records t, r.isLegible = true) :
    (records t).flatMap Record.lines = (Outline.ofLines 0 (Text.lines t)).lines ∧
      (Outline.ofLines 0 (Text.lines t)).isLegible 0 = true := by
  cases t with
  | nil =>
    have hnone : Outline.ofLines 0 (Text.lines []) = .empty :=
      Outline.ofLines_eq_empty fun l hl => by
        rw [Text.lines_nil, List.mem_singleton] at hl
        rw [hl]
        rfl
    rw [hnone]
    exact ⟨rfl, rfl⟩
  | cons c t =>
    have hrecords : records (c :: t) =
        (blocks (hasLevel 0) (Text.lines (c :: t))).filterMap Record.ofLines? := rfl
    obtain ⟨l, ls, hls⟩ := List.exists_cons_of_ne_nil (Text.lines_ne_nil (c :: t))
    have hl : hasLevel 0 l = true := by
      have hfirst := h ⟨l, Outline.ofLines 1 (ls.takeWhile fun k => !hasLevel 0 k)⟩ (by
        rw [hrecords, hls, blocks_cons]
        exact List.mem_cons_self)
      exact Line.hasLevel_self_of_isLegible (Bool.and_eq_true_iff.mp hfirst).1
    have hroots : records (c :: t) = (Outline.ofLines 0 (Text.lines (c :: t))).roots := by
      rw [hrecords, Outline.roots_ofLines, hls, levelBlocks, if_pos hl]
    rw [hroots] at h ⊢
    exact ⟨Outline.flatMap_lines_roots _, Outline.isLegible_of_forall_mem_roots h⟩

theorem newline_notMem_of_mem_records {t : Text} {r : Record} (hr : r ∈ records t) {l : Text}
    (hl : l ∈ r.lines) : '\n' ∉ l := by
  rw [records] at hr
  split at hr
  · cases hr
  · obtain ⟨b, hb, hr⟩ := List.mem_filterMap.mp hr
    obtain ⟨head, ls, rfl⟩ := List.exists_cons_of_ne_nil (ne_nil_of_mem_blocks b hb)
    obtain rfl := Option.some.inj hr
    have hblock : l ∈ head :: ls :=
      ((Outline.lines_ofLines_sublist 1 ls).cons_cons head).subset hl
    refine Text.newline_notMem_of_mem_lines (t := t) ?_
    rw [← flatten_blocks (hasLevel 0) (Text.lines t)]
    exact List.mem_flatten_of_mem hb hblock

theorem newline_notMem_of_mem_flatMap (ts : List Text) :
    ∀ r ∈ ts.flatMap records, ∀ l ∈ r.lines, '\n' ∉ l := by
  intro r hr l hl
  obtain ⟨t, _, hr⟩ := List.mem_flatMap.mp hr
  exact newline_notMem_of_mem_records hr hl

/-- Records as a filter writes them have their lines, and a line without characters at the
end. -/
theorem lines_flatten_written {rs : List Record} (hrs : ∀ r ∈ rs, ∀ l ∈ r.lines, '\n' ∉ l) :
    Text.lines (rs.map Record.written).flatten = rs.flatMap Record.lines ++ [[]] := by
  have hflatten : (rs.map Record.written).flatten =
      (rs.flatMap Record.lines).flatMap fun l => l ++ ['\n'] := by
    rw [← List.flatMap_def, List.flatMap_assoc]
    rfl
  rw [hflatten, Text.flatMap_newline, Text.lines_joinLines (by simp)]
  intro l hl
  rcases List.mem_append.mp hl with hl | hl
  · obtain ⟨r, hr, hl⟩ := List.mem_flatMap.mp hl
    exact hrs r hr l hl
  · rw [List.mem_singleton.mp hl]
    exact List.not_mem_nil

/-- Lines on which something is written are no line without characters. -/
theorem fullLines_sublist_concat_nil {t : Text} {ls : List Text} :
    (Text.fullLines t).Sublist (ls ++ [[]]) ↔ (Text.fullLines t).Sublist ls := by
  constructor
  · intro h
    have hfilter := h.filter fun l => !l.all Text.isBlank
    rw [Text.fullLines, List.filter_filter, List.filter_append] at hfilter
    simp only [Bool.and_self] at hfilter
    have hnone : ([[]] : List Text).filter (fun l => !l.all Text.isBlank) = [] := rfl
    rw [hnone, List.append_nil] at hfilter
    exact hfilter.trans List.filter_sublist
  · exact fun h => h.trans (List.sublist_append_left ls [[]])

/-! ## Filters that keep everything -/

namespace Application
variable {a : Application}

section Keeping
variable (ha : a.rules.rules = [⟨⟨"*"⟩, []⟩])
include ha

theorem firstMatch_of_keeps {path : List String} (hpath : path ≠ []) :
    firstMatch a.rules.patterns path = some 0 := by
  have hpatterns : a.rules.patterns = [⟨"*"⟩] := by
    rw [ReadyRules.patterns, ha]
    rfl
  have hlone : (Pattern.mk "*").admits path = true := matchTags_wildcard hpath
  rw [hpatterns, firstMatch, hlone]
  rfl

/-- The rule that keeps everything carries nothing out. -/
theorem finish_of_keeps (path : List String) (parent found : Option Nat) (t : Text) :
    a.finish path parent found t = pure t := by
  rcases a.finish_cases path parent found t with h | ⟨i, rule, _, _, hrule, hops, _⟩
  · exact h
  · have hmem := List.mem_of_getElem? hrule
    rw [ha, List.mem_singleton] at hmem
    exact absurd (congrArg ReadyRule.ops hmem) hops

theorem checkedEntry_of_keeps (level : Nat) (path : List String) (parent : Option Nat) (l : Text)
    (below : List String → Option Nat → RunM Text) :
    a.checkedEntry level path parent l below = (do
      let _ ← MonadExcept.ofExcept (Line.ofTextAt level l)
      let inner ← below (path ++ [Line.tagOf l]) (some 0)
      return l ++ '\n' :: inner) := by
  rw [checkedEntry, entryRemnant, firstMatch_of_keeps ha (by simp)]
  simp [finish_of_keeps ha]

/-- **Keeping everything of an outline** writes all of its lines, or stops at the first one
that cannot be read. -/
theorem run_checkedOutline_of_keeps {level : Nat} {o : Outline} (hlines : ∀ l ∈ o.lines, '\n' ∉ l)
    (path : List String) (parent : Option Nat) (s : Run) :
    (a.checkedOutline level path parent o).run s =
      (match o.illegible? level with
        | some l => .error (.malformed l)
        | none => .ok o.written, s) := by
  induction o generalizing level path parent with
  | empty => rfl
  | entry l below after ihbelow ihafter =>
    rw [Outline.lines, List.forall_mem_cons] at hlines
    have hbelow : ∀ k ∈ below.lines, '\n' ∉ k :=
      fun k hk => hlines.2 k (List.mem_append_left _ hk)
    have hafter : ∀ k ∈ after.lines, '\n' ∉ k :=
      fun k hk => hlines.2 k (List.mem_append_right _ hk)
    rw [checkedOutline, checkedEntry_of_keeps ha, Outline.illegible?]
    rcases Line.ofTextAt_eq level hlines.1 with ⟨hl, line, hline⟩ | ⟨hl, hline⟩
    · simp only [hl, hline, if_true, RunM.run_bind, RunM.run_ofExcept, ihbelow hbelow]
      cases below.illegible? (level + 1) with
      | some m => rfl
      | none =>
        simp only [Option.none_or, RunM.run_pure, ihafter hafter]
        cases after.illegible? level with
        | some m => rfl
        | none =>
          rw [Outline.written_entry]
    · simp only [hl, hline, RunM.run_bind, RunM.run_ofExcept]
      rfl

theorem run_checkedRecord_of_keeps {r : Record} (hlines : ∀ l ∈ r.lines, '\n' ∉ l) (s : Run) :
    (a.checkedRecord r).run s =
      (match r.illegible? with
        | some l => .error (.malformed l)
        | none => .ok r.written, s) := by
  have hlines' : ∀ l ∈ (Outline.entry r.head r.below .empty).lines, '\n' ∉ l := by
    rwa [r.lines_entry_empty]
  have hwritten : (Outline.entry r.head r.below .empty).written = r.written := by
    rw [Outline.written_entry, Record.written_eq]
    exact List.append_nil _
  rw [← checkedOutline_entry_empty, run_checkedOutline_of_keeps ha hlines', hwritten]
  rfl

theorem run_mapM_checkedRecord_of_keeps {rs : List Record}
    (hlines : ∀ r ∈ rs, ∀ l ∈ r.lines, '\n' ∉ l) (s : Run) :
    (rs.mapM a.checkedRecord).run s =
      (match rs.findSome? Record.illegible? with
        | some l => .error (.malformed l)
        | none => .ok (rs.map Record.written), s) := by
  induction rs with
  | nil => rfl
  | cons r rs ih =>
    rw [List.forall_mem_cons] at hlines
    rw [List.mapM_cons, List.findSome?_cons]
    simp only [RunM.run_bind, run_checkedRecord_of_keeps ha hlines.1]
    cases r.illegible? with
    | some l => rfl
    | none =>
      simp only [ih hlines.2]
      cases rs.findSome? Record.illegible? with
      | some l => rfl
      | none => rfl

/-- **Keeping everything of any text** writes all lines of its records, or fails with the
first one that cannot be read. -/
theorem run_mapM_sift_of_keeps (t : Text) {s : Run} (hs : s.memo.Faithful a.answer) :
    (((recordBlocks t).mapM (a.sift 0 [] none)).run s).1 =
      match (records t).findSome? Record.illegible? with
      | some l => .error (.malformed l)
      | none => .ok ((records t).map Record.written) := by
  obtain ⟨_, hrun⟩ := follows_mapM_sift t s hs
  rw [run_mapM_checkedRecord_of_keeps ha fun r hr l hl =>
    newline_notMem_of_mem_records hr hl] at hrun
  exact (congrArg Prod.fst hrun).symm

end Keeping
end Application

namespace Catalog

theorem compile_allRecords (ps : Params) :
    allRecords.compile ps = .ok ⟨[⟨⟨"*"⟩, []⟩]⟩ := rfl

/-- **What keeping all records keeps.**  If a line that opens an entry cannot be read at its
level, then the filter fails with the first such line.  Otherwise it writes the lines of all
entries; in this case all lines on which something is written are left, unchanged and in
their order, exactly if they can be read one after the other. -/
theorem run_allRecords (ps : Params) {t : Text} {ts : List Text}
    (hts : ts.flatMap recordBlocks = recordBlocks t) (s : Run) :
    match (records t).findSome? Record.illegible? with
    | some l => ∃ s', (allRecords.run ps ts).run s = (.error (.malformed l), s')
    | none => ∃ trace s',
        (allRecords.run ps ts).run s = (.ok ((records t).map Record.written, trace), s') ∧
          ((Text.fullLines t).Sublist
              (Text.lines ((records t).map Record.written).flatten) ↔
            isStepwise 0 (Text.fullLines t) = true) := by
  let a : Application := ⟨allRecords, ⟨[⟨⟨"*"⟩, []⟩]⟩, ps⟩
  have happly : ∀ u, (allRecords.run ps ts).run u = (a.run ts).run u := fun u => by
    rw [Filter.run, RunM.run_bind, compile_allRecords, RunM.run_ofExcept]
  have hgraph : a.references ts = .ok {} := rfl
  have hresult := Application.run_mapM_sift_of_keeps (a := a) rfl t
    (s := { s with graph := {}, memo := {} }) (Memo.faithful_empty _)
  rw [← hts] at hresult
  simp only [happly]
  cases hfault : (records t).findSome? Record.illegible? with
  | some l =>
    rw [hfault] at hresult
    exact ⟨_, Application.run_of_mapM_error hgraph (Prod.ext hresult rfl)⟩
  | none =>
    rw [hfault] at hresult
    have hlegible : ∀ r ∈ records t, r.isLegible = true := fun r hr =>
      Record.illegible?_eq_none.mp (List.findSome?_eq_none_iff.mp hfault r hr)
    have hnewline : ∀ r ∈ records t, ∀ l ∈ r.lines, '\n' ∉ l :=
      fun _ hr _ hl => newline_notMem_of_mem_records hr hl
    -- something is left of every record
    have hfilter : (((records t).map Record.written).filter fun w => !w.isEmpty) =
        (records t).map Record.written := by
      refine List.filter_eq_self.mpr fun w hw => ?_
      obtain ⟨r, _, rfl⟩ := List.mem_map.mp hw
      rw [Record.written_eq]
      cases r.head <;> rfl
    obtain ⟨trace, hrun⟩ := Application.run_of_mapM_ok hgraph (Prod.ext hresult rfl)
    rw [hfilter] at hrun
    refine ⟨trace, _, hrun, ?_⟩
    obtain ⟨hlines, houtline⟩ := flatMap_lines_records_eq hlegible
    rw [lines_flatten_written hnewline, fullLines_sublist_concat_nil, hlines,
      Outline.fullLines_sublist_iff houtline]

/-- A note in two lines, and a blank line at the end: all that is written is left. -/
theorem run_allRecords_note :
    let t := "0 @N1@ NOTE At sea\n1 CONT On land\n \n".toList
    let outputs := ["0 @N1@ NOTE At sea\n1 CONT On land\n".toList]
    [t].flatMap recordBlocks = recordBlocks t ∧
      ∃ trace s', (allRecords.run {} [t]).run {} = (.ok (outputs, trace), s') ∧
        (Text.fullLines t).Sublist (Text.lines outputs.flatten) := by
  intro t outputs
  have hts : [t].flatMap recordBlocks = recordBlocks t := by decide
  have hlegible : (records t).findSome? Record.illegible? = none := by decide +kernel
  have houtputs : (records t).map Record.written = outputs := by decide +kernel
  have hrun := run_allRecords {} hts {}
  rw [hlegible, houtputs] at hrun
  obtain ⟨trace, s', hrun, hkept⟩ := hrun
  exact ⟨hts, trace, s', hrun, hkept.mpr (by decide)⟩

/-- A line that is two levels deeper than the one above it is lost, and nobody is told. -/
theorem not_keeps_jump :
    let t := "0 HEAD\n2 SOUR Ada\n".toList
    let outputs := ["0 HEAD\n".toList]
    ((allRecords.run {} [t]).run {}).1.toOption.map (·.1) = some outputs ∧
      ¬(Text.fullLines t).Sublist (Text.lines outputs.flatten) := by
  decide +kernel

end Catalog
end Gedcom
