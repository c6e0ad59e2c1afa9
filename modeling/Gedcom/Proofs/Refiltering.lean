import Gedcom.Proofs.LiveRules
import Gedcom.Proofs.Orphans
import Gedcom.Proofs.StrayLines

/-!
# Filters without operations, applied again

A filter whose rules have no operations writes the lines that it keeps, and nothing else.
These lines are what the filter is given when it is applied to its own output.  Some of them
may stand two levels below the line in front of them by now, because the line between them is
gone, and then they are lost; and a line of level 1 at the beginning is no record at all.

`Record.Settles` says that the lines that are kept of a record are a record all of whose lines
are kept.  `rerun_iff` says that the second application does nothing exactly if all records
settle, and that the rules which settle all records are those that keep no line directly below
a line that they drop.
-/
namespace Gedcom

/-! ## Lines that are kept -/

/-- Lines as a filter writes them, every line with its newline. -/
def Text.unlines (ls : List Text) : Text := ls.flatMap fun l => l ++ ['\n']

/-- The lines that are kept among some lines with their paths. -/
def keptLines (ps : List Pattern) (es : List (List String × Text)) : List Text :=
  (es.filter fun e => (firstMatch ps e.1).isSome).map (·.2)

/-- Some lines are those of a record all of whose lines are kept. -/
def Settled (ps : List Pattern) (ls : List Text) : Prop :=
  ∃ q : Record, q.isLegible = true ∧ q.lines = ls ∧ ∀ e ∈ q.entries, firstMatch ps e.1 ≠ none

/-- What is kept of a record, if anything is, stays when it is looked at by itself. -/
def Record.Settles (ps : List Pattern) (r : Record) : Prop :=
  keptLines ps r.entries = [] ∨ Settled ps (keptLines ps r.entries)

section KeptLines
variable {ps : List Pattern}

theorem keptLines_append (es es' : List (List String × Text)) :
    keptLines ps (es ++ es') = keptLines ps es ++ keptLines ps es' := by
  rw [keptLines, List.filter_append, List.map_append]
  rfl

theorem keptLines_cons (e : List String × Text) (es : List (List String × Text)) :
    keptLines ps (e :: es) =
      (if (firstMatch ps e.1).isSome then [e.2] else []) ++ keptLines ps es := by
  rw [keptLines, List.filter_cons]
  split <;> rfl

theorem keptLines_sublist (es : List (List String × Text)) :
    (keptLines ps es).Sublist (es.map (·.2)) :=
  List.filter_sublist.map _

/-- All lines are kept if and only if all of their paths lead to a rule that keeps. -/
theorem keptLines_eq_map_iff {es : List (List String × Text)} :
    keptLines ps es = es.map (·.2) ↔ ∀ e ∈ es, firstMatch ps e.1 ≠ none := by
  have hfilter : keptLines ps es = es.map (·.2) ↔
      (es.filter fun e => (firstMatch ps e.1).isSome).length = es.length := by
    constructor
    · intro h
      have hlength := congrArg List.length h
      rwa [keptLines, List.length_map, List.length_map] at hlength
    · intro h
      rw [keptLines, List.filter_eq_self.mpr (List.length_filter_eq_length_iff.mp h)]
  rw [hfilter, List.length_filter_eq_length_iff]
  simp only [Option.isSome_iff_ne_none]

end KeptLines

namespace Text

theorem unlines_append (ls ms : List Text) : unlines (ls ++ ms) = unlines ls ++ unlines ms :=
  List.flatMap_append

theorem unlines_cons (l : Text) (ls : List Text) :
    unlines (l :: ls) = l ++ '\n' :: unlines ls := (List.append_cons l '\n' _).symm

theorem unlines_singleton (l : Text) : unlines [l] = l ++ ['\n'] := List.flatMap_singleton ..

theorem unlines_eq_nil {ls : List Text} : unlines ls = [] ↔ ls = [] := by
  cases ls with
  | nil => exact iff_of_true rfl rfl
  | cons l ls => exact iff_of_false (by simp [unlines]) (List.cons_ne_nil l ls)

theorem lines_unlines {ls : List Text} (h : ∀ l ∈ ls, '\n' ∉ l) :
    lines (unlines ls) = ls ++ [[]] := by
  rw [unlines, flatMap_newline, lines_joinLines (by simp)]
  intro l hl
  rcases List.mem_append.mp hl with hl | hl
  · exact h l hl
  · rw [List.mem_singleton.mp hl]
    exact List.not_mem_nil

/-- Lines without newlines are found again in what is written. -/
theorem unlines_inj {ls ms : List Text} (hls : ∀ l ∈ ls, '\n' ∉ l) (hms : ∀ l ∈ ms, '\n' ∉ l)
    (h : unlines ls = unlines ms) : ls = ms := by
  have hlines := congrArg lines h
  rw [lines_unlines hls, lines_unlines hms] at hlines
  exact List.append_cancel_right hlines

end Text

/-! ## The outline of lines that are left over -/

/-- Lines that can be read, each at some level. -/
def AllLegible (ls : List Text) : Prop := ∀ l ∈ ls, ∃ k, Line.isLegible k l = true

theorem AllLegible.newline_notMem {ls : List Text} (h : AllLegible ls) : ∀ l ∈ ls, '\n' ∉ l := by
  intro l hl
  obtain ⟨k, hk⟩ := h l hl
  exact Line.newline_notMem_of_isLegible hk

theorem AllLegible.of_sublist {ls ms : List Text} (h : AllLegible ms) (hls : ls.Sublist ms) :
    AllLegible ls := fun l hl => h l (hls.subset hl)

theorem Line.isLegible_of_hasLevel {level k : Nat} {l : Text} (hl : isLegible k l = true)
    (hlevel : hasLevel level l = true) : isLegible level l = true := by
  rw [hasLevel_of_isLegible hl, beq_iff_eq] at hlevel
  exact hlevel ▸ hl

/-- Whatever outline lines that can be read have, its lines stand at their levels. -/
theorem isLegible_ofLines : ∀ (level : Nat) (ls : List Text), AllLegible ls →
    (Outline.ofLines level ls).isLegible level = true
  | _, [], _ => by
    rw [Outline.ofLines]
    rfl
  | level, l :: ls, h => by
    obtain ⟨⟨k, hk⟩, hls⟩ := List.forall_mem_cons.mp h
    cases hl : hasLevel level l with
    | false =>
      rw [Outline.ofLines_cons_of_neg hl]
      exact isLegible_ofLines level ls hls
    | true =>
      have hls' : AllLegible ls := hls
      rw [Outline.ofLines_cons_of_pos hl]
      refine Outline.isLegible_entry.mpr ⟨Line.isLegible_of_hasLevel hk hl, ?_, ?_⟩
      · exact isLegible_ofLines (level + 1) _ (hls'.of_sublist (List.takeWhile_sublist _))
      · exact isLegible_ofLines level _ (hls'.of_sublist (List.dropWhile_sublist _))
termination_by _ ls => ls.length
decreasing_by
  · exact Nat.lt_succ_self _
  · exact Nat.lt_succ_of_le (List.takeWhile_sublist _).length_le
  · exact Nat.lt_succ_of_le (List.dropWhile_sublist _).length_le

namespace Record

/-- The record that some lines are read as, of which only the first one may begin a record. -/
def ofLines (l : Text) (ls : List Text) : Record := ⟨l, Outline.ofLines 1 ls⟩

theorem lines_ofLines_sublist (l : Text) (ls : List Text) :
    (ofLines l ls).lines.Sublist (l :: ls) :=
  (Outline.lines_ofLines_sublist 1 ls).cons_cons l

/-- A record is found again in its lines. -/
theorem ofLines_lines {q : Record} (hq : q.isLegible = true) :
    ofLines q.head q.below.lines = q := by
  obtain ⟨_, hbelow⟩ := Bool.and_eq_true_iff.mp hq
  have hlines : Outline.ofLines 1 (q.below.lines ++ []) = q.below :=
    Outline.ofLines_lines_append hbelow (List.forall_mem_nil _)
  rw [List.append_nil] at hlines
  rw [ofLines, hlines]

end Record

/-- The text of some lines, of which only the first one may begin a record, has one record. -/
theorem records_unlines {l : Text} {ls : List Text} (h : AllLegible (l :: ls))
    (hls : ∀ m ∈ ls, hasLevel 0 m = false) :
    records (Text.unlines (l :: ls)) = [Record.ofLines l ls] := by
  have hrest : ∀ m ∈ ls ++ [[]], hasLevel 0 m = false := by
    intro m hm
    rcases List.mem_append.mp hm with hm | hm
    · exact hls m hm
    · rw [List.mem_singleton.mp hm]
      rfl
  have hall : ∀ m ∈ ls ++ [[]], (!hasLevel 0 m) = true := fun m hm => by rw [hrest m hm]; rfl
  have hne : (Text.unlines (l :: ls)).isEmpty = false := by
    rw [List.isEmpty_eq_false_iff]
    exact fun hnil => List.cons_ne_nil l ls (Text.unlines_eq_nil.mp hnil)
  -- the empty line at the end opens no entry
  have hblank : Outline.ofLines 1 (ls ++ [[]]) = Outline.ofLines 1 ls := by
    have hlevel : ∀ m : Text, (!m.isEmpty) = false → ∀ k, hasLevel k m = false := by
      intro m hm k
      have hnil : m = [] := by simpa using hm
      rw [hnil]
      rfl
    have hfilter := Outline.ofLines_filter hlevel 1
    rw [← hfilter (ls ++ [[]]), ← hfilter ls, List.filter_append]
    exact congrArg _ (List.append_nil _)
  rw [records, hne, if_neg Bool.false_ne_true, Text.lines_unlines h.newline_notMem,
    List.cons_append, blocks_cons, List.takeWhile_eq_self_iff.mpr hall, levelBlocks_eq_nil _ hrest]
  show [Record.mk l (Outline.ofLines 1 (ls ++ [[]]))] = _
  rw [hblank]
  rfl

/-! ## One application -/

namespace Application
variable {a : Application}

/-- No rule has operations. -/
def Idle (a : Application) : Prop := ∀ r ∈ a.rules.rules, r.ops = []

/-- An outline that can be read is gone through without a check. -/
theorem checkedOutline_of_isLegible {level : Nat} {o : Outline} (ho : o.isLegible level = true)
    (path : List String) (parent : Option Nat) :
    a.checkedOutline level path parent o = a.outlineRemnant path parent o := by
  induction o generalizing level path parent with
  | empty => rfl
  | entry l below after ihbelow ihafter =>
    obtain ⟨hl, hbelow, hafter⟩ := Outline.isLegible_entry.mp ho
    obtain ⟨line, hline⟩ := Line.ofTextAt_of_isLegible hl
    rw [checkedOutline, outlineRemnant, checkedEntry, hline, ihafter hafter]
    simp only [ihbelow hbelow]
    rfl

/-- The records of some texts are sifted by going through them without a memo. -/
theorem follows_flatMap_sift (ts : List Text) :
    a.Follows ((ts.flatMap recordBlocks).mapM (a.sift 0 [] none))
      ((ts.flatMap records).mapM a.checkedRecord) := by
  rw [mapM_sift_flatMap]
  exact follows_mapM_siftRecord _

section Idle
variable (ha : a.Idle)
include ha

theorem finish_of_idle (path : List String) (parent found : Option Nat) (t : Text) :
    a.finish path parent found t = pure t := by
  rcases a.finish_cases path parent found t with h | ⟨i, rule, _, _, hrule, hops, _⟩
  · exact h
  · exact absurd (ha rule (List.mem_of_getElem? hrule)) hops

theorem entryRemnant_of_idle (path : List String) (parent : Option Nat) (l : Text)
    {below : List String → Option Nat → RunM Text} {ls : List Text}
    (hbelow : ∀ found, below (path ++ [Line.tagOf l]) found = pure (Text.unlines ls)) :
    a.entryRemnant path parent l below =
      pure (Text.unlines
        ((if (firstMatch a.rules.patterns (path ++ [Line.tagOf l])).isSome then [l] else []) ++
          ls)) := by
  rw [entryRemnant, hbelow, Text.unlines_append]
  simp only [finish_of_idle ha, pure_bind]
  split
  · rw [Text.unlines_singleton]
  · rfl

/-- **What is left of an outline** are the lines that are kept. -/
theorem outlineRemnant_of_idle (path : List String) (parent : Option Nat) (o : Outline) :
    a.outlineRemnant path parent o =
      pure (Text.unlines (keptLines a.rules.patterns (o.entries path))) := by
  induction o generalizing path parent with
  | empty => rfl
  | entry l below after ihbelow ihafter =>
    rw [outlineRemnant, entryRemnant_of_idle ha path parent l fun found => ihbelow _ found,
      ihafter, Outline.entries, keptLines_cons, keptLines_append, ← List.append_assoc,
      Text.unlines_append _ (keptLines _ (after.entries path))]
    rfl

theorem recordRemnant_of_idle (r : Record) :
    a.recordRemnant r = pure (Text.unlines (keptLines a.rules.patterns r.entries)) := by
  have hbelow := fun found => outlineRemnant_of_idle ha [r.tag] found r.below
  rw [Record.entries, keptLines_cons]
  exact entryRemnant_of_idle ha [] none r.head hbelow

theorem mapM_recordRemnant_of_idle (rs : List Record) :
    rs.mapM a.recordRemnant =
      pure (rs.map fun r => Text.unlines (keptLines a.rules.patterns r.entries)) := by
  induction rs with
  | nil => rfl
  | cons r rs ih =>
    rw [List.mapM_cons, recordRemnant_of_idle ha, ih]
    rfl

/-- What is left of the record that some lines are read as, or the fault of its first line. -/
theorem checkedRecord_of_idle {l : Text} {ls : List Text} (h : AllLegible (l :: ls)) :
    a.checkedRecord (Record.ofLines l ls) = MonadExcept.ofExcept
      (if Line.isLegible 0 l then
        .ok (Text.unlines (keptLines a.rules.patterns (Record.ofLines l ls).entries))
      else .error (.malformed l)) := by
  obtain ⟨_, hls⟩ := List.forall_mem_cons.mp h
  have hbelow : (Record.ofLines l ls).below.isLegible 1 = true := isLegible_ofLines 1 ls hls
  rw [checkedRecord, checkedEntry]
  simp only [checkedOutline_of_isLegible hbelow]
  have hnewline := h.newline_notMem l List.mem_cons_self
  rcases Line.ofTextAt_eq 0 hnewline with ⟨hl, line, hline⟩ | ⟨hl, hline⟩
  · show MonadExcept.ofExcept (Line.ofTextAt 0 l) >>= _ = _
    rw [hl, if_pos rfl, hline]
    exact recordRemnant_of_idle ha (Record.ofLines l ls)
  · show MonadExcept.ofExcept (Line.ofTextAt 0 l) >>= _ = _
    rw [hl, if_neg Bool.false_ne_true, hline]
    rfl

end Idle

/-! ## The second application -/

/-- What becomes of lines that are given to a filter without operations. -/
def retake (a : Application) : List Text → Except Fault Text
  | [] => .ok []
  | l :: ls =>
    if Line.isLegible 0 l then
      .ok (Text.unlines (keptLines a.rules.patterns (Record.ofLines l ls).entries))
    else .error (.malformed l)

/-- Lines that may be left of a record. -/
structure Leftover (ls : List Text) : Prop where
  ne_nil : ls ≠ []
  legible : AllLegible ls
  /-- Only the first one may begin a record. -/
  tail : ∀ m ∈ ls.tail, hasLevel 0 m = false

/-- Lines come back as they are if and only if they are settled. -/
theorem retake_eq_ok_iff {ls : List Text} (h : Leftover ls) :
    a.retake ls = .ok (Text.unlines ls) ↔ Settled a.rules.patterns ls := by
  obtain ⟨l, ls, rfl⟩ := List.exists_cons_of_ne_nil h.ne_nil
  have hsublist : (keptLines a.rules.patterns (Record.ofLines l ls).entries).Sublist
      (Record.ofLines l ls).lines := by
    rw [← Record.map_snd_entries]
    exact keptLines_sublist _
  rw [retake]
  constructor
  · intro hretake
    split at hretake
    · rename_i hl
      have hkept : keptLines a.rules.patterns (Record.ofLines l ls).entries = l :: ls := by
        refine Text.unlines_inj ?_ h.legible.newline_notMem (Except.ok.inj hretake)
        exact (h.legible.of_sublist
          (hsublist.trans (Record.lines_ofLines_sublist l ls))).newline_notMem
      -- the lines that are kept are between the two
      have hlines : (Record.ofLines l ls).lines = l :: ls :=
        (Record.lines_ofLines_sublist l ls).antisymm (hkept ▸ hsublist)
      have hbelow : (Record.ofLines l ls).below.isLegible 1 = true :=
        isLegible_ofLines 1 ls (h.legible.of_sublist (List.sublist_cons_self l ls))
      refine ⟨Record.ofLines l ls, Bool.and_eq_true_iff.mpr ⟨hl, hbelow⟩, hlines, ?_⟩
      rw [← keptLines_eq_map_iff, Record.map_snd_entries, hkept, hlines]
    · cases hretake
  · rintro ⟨q, hq, hlines, hkept⟩
    obtain ⟨rfl, rfl⟩ := List.cons.inj hlines
    rw [if_pos (Bool.and_eq_true_iff.mp hq).1, Record.ofLines_lines hq,
      keptLines_eq_map_iff.mpr hkept, Record.map_snd_entries]
    rfl

section Idle
variable (ha : a.Idle)
include ha

theorem mapM_checkedRecord_of_idle {lss : List (List Text)} (h : ∀ ls ∈ lss, Leftover ls) :
    ((lss.map Text.unlines).flatMap records).mapM a.checkedRecord =
      MonadExcept.ofExcept (lss.mapM a.retake) := by
  induction lss with
  | nil => rfl
  | cons ls lss ih =>
    obtain ⟨hls, hlss⟩ := List.forall_mem_cons.mp h
    obtain ⟨l, ls, rfl⟩ := List.exists_cons_of_ne_nil hls.ne_nil
    rw [List.map_cons, List.flatMap_cons, records_unlines hls.legible hls.tail,
      List.singleton_append, List.mapM_cons, ih hlss, List.mapM_cons,
      checkedRecord_of_idle ha hls.legible]
    show MonadExcept.ofExcept (a.retake (l :: ls)) >>= _ = _
    cases a.retake (l :: ls) with
    | error e => rfl
    | ok t => cases lss.mapM a.retake <;> rfl

/-- **When lines that are left over come back as they are**: exactly if all of them are
settled. -/
theorem run_unlines_iff {lss : List (List Text)} (h : ∀ ls ∈ lss, Leftover ls) (s : Run) :
    (∃ trace s', (a.run (lss.map Text.unlines)).run s =
        (.ok (lss.map Text.unlines, trace), s')) ↔
      ∀ ls ∈ lss, Settled a.rules.patterns ls := by
  obtain ⟨g, hgraph⟩ := a.exists_references (lss.map Text.unlines)
  obtain ⟨_, hrun⟩ := follows_flatMap_sift (a := a) (lss.map Text.unlines)
    { s with graph := g, memo := {} } (Memo.faithful_empty _)
  rw [mapM_checkedRecord_of_idle ha h, RunM.run_ofExcept] at hrun
  have hresult := (congrArg Prod.fst hrun).symm
  dsimp only at hresult
  have hsettled : lss.mapM a.retake = .ok (lss.map Text.unlines) ↔
      ∀ ls ∈ lss, Settled a.rules.patterns ls := by
    rw [mapM_eq_ok, List.forall₂_map_right_iff, List.forall₂_same]
    exact forall₂_congr fun ls hls => retake_eq_ok_iff (h ls hls)
  rw [← hsettled]
  cases hretake : lss.mapM a.retake with
  | error e =>
    rw [hretake] at hresult
    refine iff_of_false ?_ nofun
    rintro ⟨trace, s', hok⟩
    rw [run_of_mapM_error hgraph (Prod.ext hresult rfl)] at hok
    cases (Prod.mk.inj hok).1
  | ok ts =>
    rw [hretake] at hresult
    obtain ⟨trace, hok⟩ := run_of_mapM_ok hgraph (Prod.ext hresult rfl)
    have hlength : ts.length = (lss.map Text.unlines).length := by
      rw [List.length_map]
      exact (mapM_eq_ok.mp hretake).length_eq.symm
    rw [hok]
    constructor
    · rintro ⟨trace', s', heq⟩
      have hfilter : ts.filter (fun t => !t.isEmpty) = lss.map Text.unlines :=
        (Prod.mk.inj (Except.ok.inj (Prod.mk.inj heq).1)).1
      -- no text is empty, or else there would be fewer of them
      have hall : ts.filter (fun t => !t.isEmpty) = ts := by
        rw [List.filter_eq_self, ← List.length_filter_eq_length_iff, hfilter, hlength]
      rw [← hfilter, hall]
    · intro heq
      obtain rfl := Except.ok.inj heq
      have hall : (lss.map Text.unlines).filter (fun t => !t.isEmpty) = lss.map Text.unlines := by
        refine List.filter_eq_self.mpr fun t ht => ?_
        obtain ⟨ls, hls, rfl⟩ := List.mem_map.mp ht
        rw [Bool.not_eq_true', List.isEmpty_eq_false_iff]
        exact fun hnil => (h ls hls).ne_nil (Text.unlines_eq_nil.mp hnil)
      rw [hall]
      exact ⟨trace, _, rfl⟩

end Idle

/-! ## What one application leaves -/

/-- The lines that are kept of some records, without the records of which nothing is kept. -/
def leftovers (a : Application) (rs : List Record) : List (List Text) :=
  (rs.map fun r => keptLines a.rules.patterns r.entries).filter fun ls => !ls.isEmpty

/-- Some lines of a record may be left of it. -/
theorem leftover_of_sublist {r : Record} (hr : r.isLegible = true) {ls : List Text} (hne : ls ≠ [])
    (hls : ls.Sublist r.lines) : Leftover ls := by
  obtain ⟨hhead, hbelow⟩ := Bool.and_eq_true_iff.mp hr
  refine ⟨hne, fun l hl => ?_, fun m hm => ?_⟩
  · rcases List.mem_cons.mp (hls.subset hl) with rfl | hl
    · exact ⟨0, hhead⟩
    · obtain ⟨k, _, hk⟩ := Outline.exists_level_of_mem_lines hbelow hl
      exact ⟨k, hk⟩
  · exact Outline.hasLevel_of_mem_lines Nat.one_pos hbelow (hls.tail.subset hm)

theorem leftover_of_mem_leftovers {rs : List Record} (hrs : ∀ r ∈ rs, r.isLegible = true)
    {ls : List Text} (hls : ls ∈ a.leftovers rs) : Leftover ls := by
  obtain ⟨hls, hne⟩ := List.mem_filter.mp hls
  obtain ⟨r, hr, rfl⟩ := List.mem_map.mp hls
  refine leftover_of_sublist (hrs r hr) (by simpa using hne) ?_
  rw [← r.map_snd_entries]
  exact keptLines_sublist _

theorem somethingLeft_map_unlines (lss : List (List Text)) :
    somethingLeft (lss.map Text.unlines) =
      (lss.filter fun ls => !ls.isEmpty).map Text.unlines := by
  rw [somethingLeft, List.filter_map]
  refine congrArg _ (List.filter_congr fun ls _ => ?_)
  rw [Function.comp_apply, Bool.eq_iff_iff]
  simp [Text.unlines_eq_nil]

theorem settled_leftovers_iff (rs : List Record) :
    (∀ ls ∈ a.leftovers rs, Settled a.rules.patterns ls) ↔
      ∀ r ∈ rs, r.Settles a.rules.patterns := by
  simp only [leftovers, List.mem_filter, and_imp, List.forall_mem_map]
  refine forall₂_congr fun r _ => ?_
  rw [Record.Settles, or_iff_not_imp_left]
  simp

/-- **One application of a filter without operations** always succeeds, and writes the lines
that are kept. -/
theorem exists_run_of_idle (ha : a.Idle) {ts : List Text} {rs : List Record}
    (hts : Delivers ts rs) (s : Run) :
    ∃ trace s', (a.run ts).run s = (.ok ((a.leftovers rs).map Text.unlines, trace), s') := by
  obtain ⟨g, hgraph⟩ := a.exists_references ts
  obtain ⟨_, hrun⟩ := follows_mapM_sift_records (a := a) hts.blocks hts.legible
    { s with graph := g, memo := {} } (Memo.faithful_empty _)
  rw [mapM_recordRemnant_of_idle ha, RunM.run_pure] at hrun
  have hresult := (congrArg Prod.fst hrun).symm
  dsimp only at hresult
  obtain ⟨trace, hok⟩ := run_of_mapM_ok hgraph (Prod.ext hresult rfl)
  have houtputs : (rs.map fun r => Text.unlines (keptLines a.rules.patterns r.entries)).filter
      (fun t => !t.isEmpty) = (a.leftovers rs).map Text.unlines := by
    rw [leftovers, ← somethingLeft_map_unlines, List.map_map]
    rfl
  rw [houtputs] at hok
  exact ⟨trace, _, hok⟩

end Application

/-! ## Rules that settle every record -/

/-- No line is kept directly below one that is dropped. -/
def Downward (ps : List Pattern) : Prop :=
  ∀ path tag, path.length ≤ Line.maxLevel → isPath path = true → Line.isTag tag = true →
    firstMatch ps path = none → firstMatch ps (path ++ [tag]) = none

namespace Line

theorem takeLevel?_toDigits {level : Nat} (h : level ≤ maxLevel) (t : Text) :
    takeLevel? (Nat.toDigits 10 level ++ ' ' :: t) = some (level, ' ' :: t) := by
  have hdigits : ∀ c ∈ Nat.toDigits 10 level, c.isDigit = true := fun c hc =>
    Nat.isDigit_of_mem_toDigits (by decide) (by decide) hc
  have hvalue : Text.digitsValue (Nat.toDigits 10 level) = level :=
    Nat.ofDigitChars_toDigits (by decide) (by decide)
  have hne : (Nat.toDigits 10 level).isEmpty = false :=
    List.isEmpty_eq_false_iff.mpr Nat.toDigits_ne_nil
  have hspace : ¬ ' '.isDigit = true := by decide
  rw [takeLevel?, List.takeWhile_append_of_pos hdigits, List.dropWhile_append_of_pos hdigits,
    List.takeWhile_cons_of_neg hspace, List.dropWhile_cons_of_neg hspace, List.append_nil]
  simp [hne, hvalue, Nat.not_lt.mpr h]

/-- A tag is read as it is written. -/
theorem takeTag?_tag {tag : String} (htag : isTag tag = true) :
    takeTag? tag.toList = some (tag, []) := by
  obtain ⟨hne, hchars⟩ := Bool.and_eq_true_iff.mp htag
  have hall : ∀ c ∈ tag.toList, isTagChar c = true := List.all_eq_true.mp hchars
  rw [takeTag?, List.takeWhile_eq_self_iff.mpr hall, List.dropWhile_eq_nil_iff.mpr hall]
  simp only [Bool.not_eq_true'] at hne
  simp [hne]

/-- A tag is no identifier. -/
theorem takeXref?_tag {tag : String} (htag : isTag tag = true) (t : Text) :
    takeXref? (tag.toList ++ t) = none := by
  obtain ⟨hne, hchars⟩ := Bool.and_eq_true_iff.mp htag
  obtain ⟨c, cs, hcs⟩ := List.exists_cons_of_ne_nil (l := tag.toList) (by simpa using hne)
  have hc : c ≠ '@' := by
    rintro rfl
    exact absurd (List.all_eq_true.mp hchars '@' (hcs ▸ List.mem_cons_self)) (by decide)
  rw [hcs, List.cons_append]
  simp [takeXref?, hc]

/-- A line with nothing but a level and a tag. -/
def bare (level : Nat) (tag : String) : Text := Nat.toDigits 10 level ++ ' ' :: tag.toList

/-- Such a line is read as it is written. -/
theorem ofLine?_bare {level : Nat} (h : level ≤ maxLevel) {tag : String} (htag : isTag tag = true) :
    ofLine? (bare level tag) = some { level, tag } := by
  have hxref : takeXref? tag.toList = none := by
    rw [← takeXref?_tag htag [], List.append_nil]
  rw [bare, ofLine?, takeLevel?_toDigits h]
  simp only [hxref]
  rw [ofBody?, takeTag?_tag htag]
  rfl

theorem tagOf_bare {level : Nat} (h : level ≤ maxLevel) {tag : String} (htag : isTag tag = true) :
    tagOf (bare level tag) = tag := tagOf_of_ofLine? (ofLine?_bare h htag)

theorem isLegible_bare {level : Nat} (h : level ≤ maxLevel) {tag : String}
    (htag : isTag tag = true) : isLegible level (bare level tag) = true := by
  have hnewline : '\n' ∉ bare level tag := by
    rw [bare, List.mem_append, List.mem_cons, not_or, not_or]
    refine ⟨fun hmem => ?_, by decide, fun hmem => ?_⟩
    · exact absurd (Nat.isDigit_of_mem_toDigits (by decide) (by decide) hmem) (by decide)
    · exact absurd (List.all_eq_true.mp (Bool.and_eq_true_iff.mp htag).2 _ hmem) (by decide)
  rw [isLegible, ofLine?_bare h htag]
  simpa using hnewline

theorem isTag_of_ofBody? {level : Nat} {xref : Option String} {t : Text} {line : Line}
    (h : ofBody? level xref t = some line) : isTag line.tag = true := by
  have hchars := isTagChar_of_ofBody? h
  have hne : line.tag.toList ≠ [] := by
    unfold ofBody? takeTag? at h
    split at h
    · rename_i tag rest htag
      dsimp only at htag
      split at htag
      · cases htag
      · rename_i hne
        obtain ⟨rfl, _⟩ := Prod.mk.inj (Option.some.inj htag)
        split at h
        · cases h
        · rw [← Option.some.inj h, String.toList_ofList]
          exact fun hnil => hne (List.isEmpty_iff.mpr hnil)
    · cases h
  rw [isTag, Bool.and_eq_true, Bool.not_eq_true', List.isEmpty_eq_false_iff, List.all_eq_true]
  exact ⟨hne, hchars⟩

/-- The tag of a line that can be read is a tag. -/
theorem isTag_tagOf {level : Nat} {l : Text} (hl : isLegible level l = true) :
    isTag (tagOf l) = true := by
  obtain ⟨line, hline, _⟩ := exists_of_isLegible hl
  rw [tagOf_of_ofLine? hline]
  unfold ofLine? at hline
  split at hline
  · split at hline
    · exact isTag_of_ofBody? hline
    · exact isTag_of_ofBody? hline
  · cases hline

/-- A level that is read fits, and what follows it is the end of the text. -/
theorem le_maxLevel_of_takeLevel? {t after : Text} {level : Nat}
    (h : takeLevel? t = some (level, after)) : level ≤ maxLevel ∧ after <:+ t := by
  unfold takeLevel? at h
  dsimp only at h
  split at h
  · cases h
  · rename_i hle
    obtain ⟨rfl, rfl⟩ := Prod.mk.inj (Option.some.inj h)
    simp only [Bool.or_eq_true, decide_eq_true_eq, not_or, Nat.not_lt] at hle
    exact ⟨hle.2, List.dropWhile_suffix _⟩

theorem le_maxLevel_of_isLegible {level : Nat} {l : Text} (hl : isLegible level l = true) :
    level ≤ maxLevel := by
  have hlevel := hasLevel_self_of_isLegible hl
  rw [hasLevel, levelOf?, beq_iff_eq, Option.map_eq_some_iff] at hlevel
  obtain ⟨⟨_, after⟩, htake, rfl⟩ := hlevel
  exact (le_maxLevel_of_takeLevel? htake).1

end Line

namespace Outline
variable {ps : List Pattern}

/-- Lines with some tags, each below the one before. -/
def chain : (level : Nat) → List String → Outline
  | _, [] => .empty
  | level, tag :: tags => .entry (Line.bare level tag) (chain (level + 1) tags) .empty

theorem isLegible_chain {level : Nat} {tags : List String}
    (hlevel : level + tags.length ≤ Line.maxLevel + 1)
    (htags : ∀ tag ∈ tags, Line.isTag tag = true) :
    (chain level tags).isLegible level = true := by
  induction tags generalizing level with
  | nil => rfl
  | cons tag tags ih =>
    obtain ⟨htag, htags⟩ := List.forall_mem_cons.mp htags
    rw [List.length_cons] at hlevel
    exact isLegible_entry.mpr ⟨Line.isLegible_bare (by omega) htag, ih (by omega) htags, rfl⟩

theorem entries_chain_cons {level : Nat} (hlevel : level ≤ Line.maxLevel) {tag : String}
    (htag : Line.isTag tag = true) (tags path : List String) :
    (chain level (tag :: tags)).entries path =
      (path ++ [tag], Line.bare level tag) ::
        (chain (level + 1) tags).entries (path ++ [tag]) := by
  rw [chain, entries, Line.tagOf_bare hlevel htag, entries, List.append_nil]

/-- The last line of a chain stands below all others. -/
theorem entries_chain_concat {level : Nat} {tags : List String} {tag : String}
    (hlevel : level + tags.length ≤ Line.maxLevel) (htags : ∀ t ∈ tags, Line.isTag t = true)
    (htag : Line.isTag tag = true) (path : List String) :
    (chain level (tags ++ [tag])).entries path =
      (chain level tags).entries path ++
        [(path ++ (tags ++ [tag]), Line.bare (level + tags.length) tag)] := by
  induction tags generalizing level path with
  | nil => exact entries_chain_cons hlevel htag [] path
  | cons t tags ih =>
    obtain ⟨ht, htags⟩ := List.forall_mem_cons.mp htags
    rw [List.length_cons] at hlevel
    have hnext : level + 1 + tags.length = level + (tags.length + 1) := by omega
    rw [List.cons_append, entries_chain_cons (by omega) ht, entries_chain_cons (by omega) ht,
      ih (by omega) htags, hnext, List.length_cons, List.append_assoc]
    rfl

theorem length_entries_chain (level : Nat) (tags : List String) (path : List String) :
    ((chain level tags).entries path).length = tags.length := by
  induction tags generalizing level path with
  | nil => rfl
  | cons tag tags ih =>
    rw [chain, entries, List.length_cons, List.length_append, ih]
    rfl

section Paths
variable {path : List String} {o : Outline} {level : Nat}

/-- The paths of lines that can be read are made of tags, one for each level. -/
theorem path_of_mem_entries (ho : o.isLegible level = true) (hlevel : path.length = level)
    (hpath : ∀ tag ∈ path, Line.isTag tag = true) {e : List String × Text}
    (he : e ∈ o.entries path) :
    e.1.length ≤ Line.maxLevel + 1 ∧ ∀ tag ∈ e.1, Line.isTag tag = true := by
  induction o generalizing level path with
  | empty => cases he
  | entry l below after ihbelow ihafter =>
    obtain ⟨hl, hbelow, hafter⟩ := isLegible_entry.mp ho
    have hlength : (path ++ [Line.tagOf l]).length = level + 1 := by
      rw [List.length_append, hlevel]
      rfl
    have htags : ∀ tag ∈ path ++ [Line.tagOf l], Line.isTag tag = true := by
      rw [List.forall_mem_append]
      exact ⟨hpath, List.forall_mem_singleton.mpr (Line.isTag_tagOf hl)⟩
    rcases List.mem_cons.mp he with rfl | he
    · exact ⟨hlength ▸ Nat.succ_le_succ (Line.le_maxLevel_of_isLegible hl), htags⟩
    · rcases List.mem_append.mp he with he | he
      · exact ihbelow hbelow hlength htags he
      · exact ihafter hafter hlevel hpath he

end Paths

end Outline

/-- No line of stepwise lines is deeper than its place allows. -/
theorem le_of_isStepwise_concat {deepest k : Nat} {ls : List Text} {l : Text}
    (h : isStepwise deepest (ls ++ [l]) = true) (hl : Line.isLegible k l = true) :
    k ≤ deepest + ls.length := by
  induction ls generalizing deepest with
  | nil =>
    obtain ⟨n, hn, hl', _⟩ := exists_of_isStepwise_cons h
    obtain rfl := Line.level_unique hl hl'
    exact hn
  | cons m ls ih =>
    obtain ⟨n, hn, _, hls⟩ := exists_of_isStepwise_cons h
    have hk := ih hls
    rw [List.length_cons]
    omega


namespace Record
variable {ps : List Pattern} {r : Record}

/-- What is kept of a record that can be read can be read. -/
theorem isLegible_of_kept {q : Record} (hr : r.isLegible = true) (hq : r.kept ps = some q) :
    q.isLegible = true := by
  rw [kept] at hq
  split at hq
  · cases hq
  · obtain rfl := Option.some.inj hq
    obtain ⟨hhead, hbelow⟩ := Bool.and_eq_true_iff.mp hr
    exact Bool.and_eq_true_iff.mpr ⟨hhead, Outline.isLegible_without hbelow⟩

/-- The lines that are kept are those of the record that is left, if any is. -/
theorem lines_kept (h : KeepsAbove ps [] r.entries) :
    ((r.kept ps).map lines).getD [] = keptLines ps r.entries := by
  have hentries := congrArg (List.map (·.2)) (entries_kept h)
  simp only [drops, Option.not_isNone] at hentries
  rw [keptLines, ← hentries]
  cases r.kept ps with
  | none => rfl
  | some q => exact q.map_snd_entries.symm

end Record

/-- What is left of some things, where what is left is never empty. -/
theorem map_filterMap_eq {α β γ : Type} (f : α → Option β) {g : β → List γ} (hg : ∀ b, g b ≠ [])
    (as : List α) :
    (as.filterMap f).map g =
      (as.map fun a => ((f a).map g).getD []).filter fun l => !l.isEmpty := by
  induction as with
  | nil => rfl
  | cons a as ih =>
    rw [List.map_cons]
    cases ha : f a with
    | none => rw [List.filterMap_cons_none ha, ih]; rfl
    | some b =>
      have hb : (!(g b).isEmpty) = true := by
        rw [Bool.not_eq_true', List.isEmpty_eq_false_iff]
        exact hg b
      rw [List.filterMap_cons_some ha, List.map_cons, ih, Option.map_some, Option.getD_some,
        List.filter_cons_of_pos (p := fun l : List γ => !l.isEmpty) hb]

/-- If no line is kept below one that is dropped, what is left of records are records. -/
theorem Application.map_written_kept {a : Application} {rs : List Record}
    (h : ∀ r ∈ rs, KeepsAbove a.rules.patterns [] r.entries) :
    (rs.filterMap (Record.kept a.rules.patterns)).map Record.written =
      (a.leftovers rs).map Text.unlines := by
  have hlines : (rs.filterMap (Record.kept a.rules.patterns)).map Record.lines =
      a.leftovers rs := by
    rw [map_filterMap_eq _ (g := Record.lines) (fun q => List.cons_ne_nil _ _),
      List.map_congr_left fun r hr => Record.lines_kept (h r hr)]
    rfl
  rw [← hlines, List.map_map]
  rfl

section Downward
variable {ps : List Pattern}

/-- What stands below a line that is dropped is dropped, however far below. -/
theorem Downward.firstMatch_append (h : Downward ps) {path : List String} (hne : path ≠ [])
    (hdropped : firstMatch ps path = none) {rest : List String}
    (hlength : (path ++ rest).length ≤ Line.maxLevel + 1)
    (htags : ∀ tag ∈ path ++ rest, Line.isTag tag = true) :
    firstMatch ps (path ++ rest) = none := by
  induction rest generalizing path with
  | nil =>
    rw [List.append_nil]
    exact hdropped
  | cons tag rest ih =>
    have hpath : isPath path = true := by
      rw [isPath, Bool.and_eq_true, Bool.not_eq_true', List.isEmpty_eq_false_iff, List.all_eq_true]
      exact ⟨hne, fun t ht => htags t (List.mem_append_left _ ht)⟩
    have htag : Line.isTag tag = true := htags tag (List.mem_append_right _ List.mem_cons_self)
    have hshort : path.length ≤ Line.maxLevel := by
      rw [List.length_append, List.length_cons] at hlength
      omega
    rw [List.append_cons] at hlength htags ⊢
    exact ih (by simp) (h path tag hshort hpath htag hdropped) hlength htags

theorem Downward.keepsAbove (h : Downward ps) {r : Record} (hr : r.isLegible = true) :
    KeepsAbove ps [] r.entries := by
  intro e he p _ hne hp hdropped
  obtain ⟨rest, hrest⟩ := hp
  obtain ⟨hhead, hbelow⟩ := Bool.and_eq_true_iff.mp hr
  rw [← r.entries_eq] at he
  obtain ⟨hlength, htags⟩ := Outline.path_of_mem_entries
    (Outline.isLegible_entry.mpr ⟨hhead, hbelow, rfl⟩) rfl (List.forall_mem_nil _) he
  rw [← hrest] at hlength htags ⊢
  exact h.firstMatch_append hne hdropped hlength htags

/-- A record of which whole structures are cut out settles. -/
theorem Record.settles_of_keepsAbove {r : Record} (hr : r.isLegible = true)
    (h : KeepsAbove ps [] r.entries) : r.Settles ps := by
  have hentries := entries_kept h
  have hlines := lines_kept h
  rw [Settles, ← hlines]
  cases hq : r.kept ps with
  | none => exact .inl rfl
  | some q =>
    rw [hq] at hentries
    refine .inr ⟨q, isLegible_of_kept hr hq, rfl, fun e he => ?_⟩
    have hmem : e ∈ r.entries.filter fun e => !drops ps e.1 e.2 := hentries ▸ he
    have hkeeps := (List.mem_filter.mp hmem).2
    rw [drops, Option.not_isNone] at hkeeps
    exact Option.isSome_iff_ne_none.mp hkeeps

/-- Under such rules every record settles. -/
theorem Downward.settles (h : Downward ps) {r : Record} (hr : r.isLegible = true) :
    r.Settles ps := Record.settles_of_keepsAbove hr (h.keepsAbove hr)

/-- The lines of a record can be read one after the other. -/
theorem isStepwise_lines_record {q : Record} (hq : q.isLegible = true) :
    isStepwise 0 q.lines = true := by
  obtain ⟨hhead, hbelow⟩ := Bool.and_eq_true_iff.mp hq
  have hstep := Outline.isStepwise_lines (o := .entry q.head q.below .empty)
    (Outline.isLegible_entry.mpr ⟨hhead, hbelow, rfl⟩)
  rw [Outline.lines, Outline.lines, List.append_nil] at hstep
  exact hstep

/-- A line that is kept directly below one that is dropped is lost with the lines that stand
below each other on the way to it. -/
theorem not_settles_chain {init : List String} {last tag : String}
    (hlength : (init ++ [last]).length ≤ Line.maxLevel)
    (hpath : ∀ t ∈ init ++ [last], Line.isTag t = true) (htag : Line.isTag tag = true)
    (hdropped : firstMatch ps (init ++ [last]) = none)
    (hkept : firstMatch ps (init ++ [last] ++ [tag]) ≠ none) :
    ∃ r : Record, r.isLegible = true ∧ ¬r.Settles ps := by
  obtain ⟨t, ts, hts⟩ : ∃ t ts, init ++ [last] ++ [tag] = t :: ts :=
    List.exists_cons_of_ne_nil (by simp)
  obtain ⟨hinit, hlast⟩ := List.forall_mem_append.mp hpath
  have hshort : init.length + 1 ≤ Line.maxLevel := by
    rw [List.length_append] at hlength
    exact hlength
  let r : Record := ⟨Line.bare 0 t, Outline.chain 1 ts⟩
  have hentries : r.entries = (Outline.chain 0 init).entries [] ++
      [(init ++ [last], Line.bare init.length last)] ++
        [(init ++ [last] ++ [tag], Line.bare (init.length + 1) tag)] := by
    have hchain : r.entries = (Outline.chain 0 (init ++ [last] ++ [tag])).entries [] := by
      rw [hts]
      exact r.entries_eq.symm
    rw [hchain, Outline.entries_chain_concat (by omega) hpath htag,
      Outline.entries_chain_concat (by omega) hinit (hlast last (List.mem_singleton_self last)),
      List.length_append]
    simp only [List.nil_append, Nat.zero_add, List.length_singleton]
  have hlegible : r.isLegible = true := by
    have htags : ∀ u ∈ t :: ts, Line.isTag u = true := by
      rw [← hts]
      exact List.forall_mem_append.mpr ⟨hpath, List.forall_mem_singleton.mpr htag⟩
    have hdepth : 0 + (t :: ts).length ≤ Line.maxLevel + 1 := by
      rw [← hts, List.length_append, List.length_singleton]
      omega
    obtain ⟨hhead, hbelow, _⟩ := Outline.isLegible_entry.mp (Outline.isLegible_chain hdepth htags)
    exact Bool.and_eq_true_iff.mpr ⟨hhead, hbelow⟩
  have hlines : keptLines ps r.entries =
      keptLines ps ((Outline.chain 0 init).entries []) ++ [Line.bare (init.length + 1) tag] := by
    rw [hentries, keptLines_append, keptLines_append, keptLines_cons, keptLines_cons, hdropped,
      Option.isSome_iff_ne_none.mpr hkept]
    simp [keptLines]
  refine ⟨r, hlegible, ?_⟩
  rintro (hnone | ⟨q, hq, hqlines, _⟩)
  · rw [hlines] at hnone
    simp at hnone
  · -- there are not enough lines above the last one for its level
    have hstep := isStepwise_lines_record hq
    rw [hqlines, hlines] at hstep
    have hle := le_of_isStepwise_concat hstep (Line.isLegible_bare hshort htag)
    have hcount : (keptLines ps ((Outline.chain 0 init).entries [])).length ≤ _ :=
      (keptLines_sublist _).length_le
    rw [List.length_map, Outline.length_entries_chain] at hcount
    omega

/-- **Which rules settle every record**: those that keep no line directly below one that they
drop. -/
theorem forall_settles_iff :
    (∀ r : Record, r.isLegible = true → r.Settles ps) ↔ Downward ps := by
  constructor
  · intro h path tag hlength hpath htag hdropped
    by_contra hkept
    obtain ⟨hne, htags⟩ := Bool.and_eq_true_iff.mp hpath
    obtain ⟨init, last, rfl⟩ : ∃ init last, path = init ++ [last] :=
      ⟨_, _, (List.dropLast_append_getLast (by simpa using hne)).symm⟩
    obtain ⟨r, hr, hsettles⟩ :=
      not_settles_chain hlength (List.all_eq_true.mp htags) htag hdropped hkept
    exact hsettles (h r hr)
  · exact fun h r hr => h.settles hr

end Downward

/-! ## Filters without operations -/

namespace Filter
variable {f : Filter} {ps : Params}

/-- A valid filter without operations is ready to run, and has none then. -/
theorem exists_compile_of_idle (hvalid : f.validate ps = .ok ())
    (hops : ∀ r ∈ (f.rules ps).rules, r.ops = []) :
    ∃ rules, f.compile ps = .ok rules ∧ rules.patterns = (f.rules ps).patterns.map Pattern.mk ∧
      ∀ r ∈ rules.rules, r.ops = [] := by
  have hmacros : (f.rules ps).unknownMacro? f.macros = none := by
    rw [RuleSet.unknownMacro?, List.flatMap_eq_nil_iff.mpr hops]
    rfl
  have hbecomes : List.Forall₂ (Rule.Becomes ps)
      ((f.rules ps).flatMapOps (RuleSet.writtenOut f.macros)).rules
      ((f.rules ps).rules.map fun r => ⟨⟨r.pattern⟩, []⟩) := by
    rw [RuleSet.flatMapOps, List.forall₂_map_left_iff, List.forall₂_map_right_iff,
      List.forall₂_same]
    intro r hr
    refine ⟨rfl, ?_⟩
    rw [hops r hr]
    exact .nil
  have hcompile : f.compile ps = .ok ⟨(f.rules ps).rules.map fun r => ⟨⟨r.pattern⟩, []⟩⟩ :=
    RuleSet.compile_eq_ok.mpr ⟨hvalid, hmacros, hbecomes⟩
  refine ⟨_, hcompile, RuleSet.patterns_of_compile hcompile, fun r hr => ?_⟩
  obtain ⟨q, _, rfl⟩ := List.mem_map.mp hr
  rfl

/-- **Filters without operations, applied to their own output.**  A valid filter whose rules
have no operations always succeeds, and writes the lines that are kept.  Applied to what it
has written, it gives back the same records if and only if every record settles.  All records
settle if and only if no line is kept directly below a line that is dropped. -/
theorem rerun_iff (hvalid : f.validate ps = .ok ())
    (hops : ∀ r ∈ (f.rules ps).rules, r.ops = []) :
    let patterns := (f.rules ps).patterns.map Pattern.mk
    (∀ {ts : List Text} {rs : List Record}, Delivers ts rs → ∀ s : Run,
      ∃ outputs trace s', (f.run ps ts).run s = (.ok (outputs, trace), s') ∧
        outputs = Application.somethingLeft
          (rs.map fun r => Text.unlines (keptLines patterns r.entries)) ∧
        ∀ s₂ : Run, (∃ trace₂ s₃, (f.run ps outputs).run s₂ = (.ok (outputs, trace₂), s₃)) ↔
          ∀ r ∈ rs, r.Settles patterns) ∧
      ((∀ r : Record, r.isLegible = true → r.Settles patterns) ↔ Downward patterns) := by
  intro patterns
  obtain ⟨rules, hcompile, hpatterns, hidle⟩ := exists_compile_of_idle hvalid hops
  let a : Application := ⟨f, rules, ps⟩
  have ha : a.Idle := hidle
  have happly : ∀ ts, f.run ps ts = a.run ts := fun ts => by
    rw [Filter.run, hcompile]
    rfl
  have hps : patterns = a.rules.patterns := hpatterns.symm
  refine ⟨fun {ts rs} hts s => ?_, forall_settles_iff⟩
  obtain ⟨trace, s', hrun⟩ := Application.exists_run_of_idle ha hts s
  refine ⟨(a.leftovers rs).map Text.unlines, trace, s', ?_, ?_, fun s₂ => ?_⟩
  · rw [happly]
    exact hrun
  · rw [hps, Application.leftovers, ← Application.somethingLeft_map_unlines, List.map_map]
    rfl
  · rw [happly, hps, ← Application.settled_leftovers_iff rs]
    exact Application.run_unlines_iff ha
      (fun ls hls => Application.leftover_of_mem_leftovers hts.legible hls) s₂

/-- What is left of a record without its change data stays as it is. -/
theorem rerun_iff_changed :
    ∃ outputs trace s', (Catalog.removeChangeData.run {} [Catalog.changed.written]).run {} =
        (.ok (outputs, trace), s') ∧
      outputs = ["0 @I1@ INDI\n1 NAME Ada\n".toList] ∧
      ∃ trace₂ s₃, (Catalog.removeChangeData.run {} outputs).run s' =
        (.ok (outputs, trace₂), s₃) := by
  have hvalid : Catalog.removeChangeData.validate {} = .ok () := by rfl
  have hops : ∀ r ∈ (Catalog.removeChangeData.rules {}).rules, r.ops = [] := by decide
  have hdelivers : Delivers [Catalog.changed.written] [Catalog.changed] :=
    delivers_written (List.forall_mem_singleton.mpr (by decide))
  have hsettles : ∀ r ∈ [Catalog.changed],
      r.Settles ((Catalog.removeChangeData.rules {}).patterns.map Pattern.mk) := by
    refine List.forall_mem_singleton.mpr (.inr ?_)
    exact ⟨⟨"0 @I1@ INDI".toList, .entry "1 NAME Ada".toList .empty .empty⟩, by decide,
      by decide, by decide⟩
  obtain ⟨outputs, trace, s', hrun, houtputs, hrerun⟩ := (rerun_iff hvalid hops).1 hdelivers {}
  refine ⟨outputs, trace, s', hrun, ?_, (hrerun s').mpr hsettles⟩
  rw [houtputs]
  decide

/-- A note on a restriction notice is left two levels below its record, and then lost. -/
theorem not_rerun_restriction :
    Catalog.removeRestrictions.validate {} = .ok () ∧
      (∀ r ∈ (Catalog.removeRestrictions.rules {}).rules, r.ops = []) ∧
      isStepwise 0 ["0 @I1@ INDI".toList, "1 RESN privacy".toList, "2 NOTE why".toList] = true ∧
      ((Catalog.removeRestrictions.run {}
        ["0 @I1@ INDI\n1 RESN privacy\n2 NOTE why\n".toList]).run {}).1.toOption.map (·.1) =
          some ["0 @I1@ INDI\n2 NOTE why\n".toList] ∧
      ((Catalog.removeRestrictions.run {}
        ["0 @I1@ INDI\n2 NOTE why\n".toList]).run {}).1.toOption.map (·.1) =
          some ["0 @I1@ INDI\n".toList] := by
  refine ⟨by rfl, by decide, by decide, ?_, ?_⟩
  · decide +kernel
  · decide +kernel

end Filter

end Gedcom
