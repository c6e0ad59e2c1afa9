import Gedcom.Engine
import Gedcom.Proofs.Linking
import Gedcom.Proofs.Outermost
import Gedcom.Proofs.Pruning

/-!
# The reference graph of a transmission

What a filter learns of the records of a transmission from its pruned reference graph
can be read off the records themselves: whether a record holds nothing, whether it is
an individual of whom nothing else is told, and whether it is of any use.

A record is *dead* if it is of no kept type and holds nothing, or if only dead records
refer to it (`Dead`).  `isReferenced_of_shows` says that of the records that may be
cut off, the pruned graph has references exactly to those that are not dead.
-/
namespace Gedcom

/-! ## What a record says -/

namespace Record

/-- The identifier of a record. -/
def xref? (r : Record) : Option String := (Line.ofLine? r.head).bind (·.xref)

/-- The type of a record. -/
def tag (r : Record) : String := Line.tagOf r.head

/-- The value of the first line of a record. -/
def value (r : Record) : Text := ((Line.ofLine? r.head).map (·.value)).getD []

/-- The key of a record: its identifier, or its tag if it has none. -/
def key (r : Record) : String := r.xref?.getD r.tag

/-- Whether a record holds nothing.  Header and trailer never count as empty. -/
def isEmpty (r : Record) : Bool :=
  r.value.isEmpty && r.below == .empty && !(r.tag == "HEAD" || r.tag == "TRLR")

/-- Whether a record is an individual of whom nothing but sex and families is told. -/
def isMinimal (r : Record) : Bool :=
  r.tag == "INDI" && r.below.roots.all fun s => Graph.minimalTags.contains s.tag

/-- The records that the lines of a record refer to. -/
def references (r : Record) : List String := r.lines.filterMap Line.reference?

/-- What a record says of itself. -/
def definition (r : Record) : Definition where
  key := r.key
  type := r.tag
  empty := r.isEmpty
  minimal := r.isMinimal
  references := r.references

variable {r : Record}

theorem lines_text (hr : r.isLegible = true) (newlines : Nat) :
    Text.lines (r.text newlines) = r.lines ++ List.replicate newlines [] := by
  rw [text_eq_joinLines, Text.lines_joinLines (by simp)]
  · rfl
  · intro l hl
    obtain ⟨hhead, hbelow⟩ := Bool.and_eq_true_iff.mp hr
    rcases List.mem_cons.mp hl with rfl | hl
    · exact Line.newline_notMem_of_isLegible hhead
    · exact Outline.newline_notMem_of_mem_append hbelow hl

/-- A record is the only one in its text. -/
theorem recordBlocks_text (hr : r.isLegible = true) (newlines : Nat) :
    recordBlocks (r.text newlines) = [r.text newlines] := by
  obtain ⟨hhead, hbelow⟩ := Bool.and_eq_true_iff.mp hr
  have hinside : ∀ l ∈ r.below.lines ++ List.replicate newlines [], hasLevel 0 l = false := by
    intro l hl
    rcases List.mem_append.mp hl with hl | hl
    · exact Outline.hasLevel_of_mem_lines Nat.one_pos hbelow hl
    · exact Outline.hasLevel_of_mem_replicate hl 0
  have hall : ∀ l ∈ r.below.lines ++ List.replicate newlines [], (!hasLevel 0 l) = true := by
    intro l hl
    rw [hinside l hl]
    rfl
  obtain ⟨c, cs, hcs, _⟩ := exists_digit_of_hasLevel (Line.hasLevel_self_of_isLegible hhead)
  have hne : (r.text newlines).isEmpty = false := by
    rw [text, lines, hcs]
    cases r.below.lines <;> rfl
  rw [recordBlocks, hne, if_neg Bool.false_ne_true, blocksBefore, lines_text hr, lines,
    List.cons_append, blocks_cons, levelBlocks_eq_nil _ hinside,
    List.takeWhile_eq_self_iff.mpr hall, r.text_eq_joinLines]
  rfl

end Record

theorem Text.afterFirstLine_joinLines {l : Text} (hl : '\n' ∉ l) (ls : List Text) :
    afterFirstLine (joinLines (l :: ls)) = joinLines ls := by
  have hall : ∀ c ∈ l, (c != '\n') = true := by
    intro c hc
    simpa using fun he : c = '\n' => hl (he ▸ hc)
  cases ls with
  | nil =>
    rw [joinLines_singleton, afterFirstLine, List.dropWhile_eq_nil_iff.mpr hall]
    rfl
  | cons m ls =>
    rw [joinLines_cons_cons, afterFirstLine, List.dropWhile_append_of_pos hall]
    simp

theorem Text.isBlank_of_isDigit {c : Char} (hc : c.isDigit = true) : isBlank c = false := by
  have hrange : 48 ≤ c.toNat ∧ c.toNat ≤ 57 := by
    rw [Char.isDigit, Bool.and_eq_true, decide_eq_true_eq, decide_eq_true_eq] at hc
    exact ⟨hc.1, hc.2⟩
  rw [isBlank, CharSet.contains, blankChars, blankRanges]
  simp only [CharSet.inRanges]
  rw [if_neg (by omega), if_neg (by omega), if_pos (by omega)]
  simp only [Bool.or_false, Bool.or_eq_false_iff, decide_eq_false_iff_not]
  omega

theorem Text.all_isBlank_joinLines_nil (newlines : Nat) :
    (joinLines (List.replicate newlines [])).all isBlank = true := by
  induction newlines with
  | zero => rfl
  | succ n ih =>
    cases n with
    | zero => rfl
    | succ n =>
      rw [List.replicate_succ, List.replicate_succ, joinLines_cons_cons, ← List.replicate_succ]
      exact ih

namespace Outline

/-- The lines of an outline are blank only if there are none. -/
theorem all_isBlank_lines {level : Nat} {o : Outline} (ho : o.isLegible level = true)
    (newlines : Nat) :
    (Text.joinLines (o.lines ++ List.replicate newlines [])).all Text.isBlank =
      (o == .empty) := by
  cases o with
  | empty => exact Text.all_isBlank_joinLines_nil newlines
  | entry l below after =>
    obtain ⟨hl, _, _⟩ := isLegible_entry.mp ho
    obtain ⟨c, cs, rfl, hc⟩ := exists_digit_of_hasLevel (Line.hasLevel_self_of_isLegible hl)
    have hfirst : ∀ ls, ∃ t, Text.joinLines ((c :: cs) :: ls) = c :: t := by
      intro ls
      cases ls with
      | nil => exact ⟨cs, Text.joinLines_singleton _⟩
      | cons m ls => exact ⟨_, Text.joinLines_cons_cons _ _ _⟩
    obtain ⟨t, ht⟩ := hfirst (below.lines ++ after.lines ++ List.replicate newlines [])
    rw [lines, List.cons_append, ht, List.all_cons, Text.isBlank_of_isDigit hc]
    rfl

theorem isLegible_head_of_mem_roots {level : Nat} {o : Outline} (ho : o.isLegible level = true)
    {r : Record} (hr : r ∈ o.roots) : Line.isLegible level r.head = true := by
  induction o with
  | empty => cases hr
  | entry l below after _ ihafter =>
    obtain ⟨hl, _, hafter⟩ := isLegible_entry.mp ho
    rcases List.mem_cons.mp hr with rfl | hr
    · exact hl
    · exact ihafter hafter hr

/-- The lines of its level in an outline are those of its entries. -/
theorem filter_hasLevel_lines {level : Nat} {o : Outline} (ho : o.isLegible level = true)
    (newlines : Nat) :
    (o.lines ++ List.replicate newlines []).filter (hasLevel level) = o.roots.map (·.head) := by
  induction o with
  | empty =>
    refine List.filter_eq_nil_iff.mpr fun l hl => ?_
    rw [hasLevel_of_mem_replicate hl]
    exact Bool.false_ne_true
  | entry l below after _ ihafter =>
    obtain ⟨hl, hbelow, hafter⟩ := isLegible_entry.mp ho
    have hnone : below.lines.filter (hasLevel level) = [] := by
      refine List.filter_eq_nil_iff.mpr fun k hk => ?_
      rw [hasLevel_of_mem_lines (Nat.lt_succ_self level) hbelow hk]
      exact Bool.false_ne_true
    rw [lines, List.cons_append, List.append_assoc,
      List.filter_cons_of_pos (Line.hasLevel_self_of_isLegible hl), List.filter_append, hnone,
      List.nil_append, ihafter hafter]
    rfl

end Outline

/-- **The text of a record is read as what the record says.** -/
theorem definition_text {r : Record} (hr : r.isLegible = true) (newlines : Nat) :
    Definition.ofText? (r.text newlines) = some r.definition := by
  obtain ⟨hhead, hbelow⟩ := Bool.and_eq_true_iff.mp hr
  have hnewline := Line.newline_notMem_of_isLegible hhead
  obtain ⟨head, hline, hlevel⟩ := Line.exists_of_isLegible hhead
  have hfirst : Text.firstLine (r.text newlines) = r.head := by
    rw [r.text_eq_joinLines, Text.firstLine_joinLines hnewline]
  have hread : Line.ofTextAt 0 (r.text newlines) = .ok head := by
    rw [Line.ofTextAt, hfirst, hline]
    exact if_pos hlevel
  have hempty : Graph.holdsNothing head (Text.afterFirstLine (r.text newlines)) = r.isEmpty := by
    rw [r.text_eq_joinLines, Text.afterFirstLine_joinLines hnewline, Graph.holdsNothing,
      Outline.all_isBlank_lines hbelow, Record.isEmpty, Record.value, Record.tag,
      Line.tagOf_of_ofLine? hline, hline]
    rfl
  have hminimal : (head.tag == "INDI" && Graph.holdsMinimum (Text.lines (r.text newlines)).tail) =
      r.isMinimal := by
    have hstructures : (Text.lines (r.text newlines)).tail =
        r.below.lines ++ List.replicate newlines [] := by
      rw [Record.lines_text hr]
      rfl
    have hall : Graph.holdsMinimum (Text.lines (r.text newlines)).tail =
        r.below.roots.all fun s => Graph.minimalTags.contains s.tag := by
      rw [Graph.holdsMinimum, hstructures, Outline.filter_hasLevel_lines hbelow, List.all_map]
      rw [Bool.eq_iff_iff, List.all_eq_true, List.all_eq_true]
      refine forall₂_congr fun s hs => ?_
      obtain ⟨line, hline, _⟩ :=
        Line.exists_of_isLegible (Outline.isLegible_head_of_mem_roots hbelow hs)
      rw [Function.comp_apply, hline, Record.tag, Line.tagOf_of_ofLine? hline]
    rw [hall, Record.isMinimal, Record.tag, Line.tagOf_of_ofLine? hline]
  have hreferences : (Text.lines (r.text newlines)).filterMap Line.reference? = r.references := by
    have hblank : (List.replicate newlines ([] : Text)).filterMap Line.reference? = [] := by
      refine List.filterMap_eq_nil_iff.mpr fun l hl => ?_
      rw [List.eq_of_mem_replicate hl]
      rfl
    rw [Record.lines_text hr, List.filterMap_append, hblank, List.append_nil, Record.references]
  rw [Definition.ofText?, hread]
  dsimp only
  rw [hempty, hminimal, hreferences, Record.definition, Record.key, Record.xref?, hline, Record.tag,
    Line.tagOf_of_ofLine? hline]
  rfl

/-! ## Texts of records -/

/-- Texts hand over some records: cut in front of the lines of level 0, they are the records
as they are written, with any number of newlines at their ends. -/
structure Delivers (ts : List Text) (rs : List Record) : Prop where
  blocks : List.Forall₂ (fun b (r : Record) => ∃ newlines, b = r.text newlines)
    (ts.flatMap recordBlocks) rs
  legible : ∀ r ∈ rs, r.isLegible = true

/-- Texts are read as what the records that they hand over say. -/
theorem Delivers.filterMap_ofText? {ts : List Text} {rs : List Record} (h : Delivers ts rs) :
    (ts.flatMap recordBlocks).filterMap Definition.ofText? = rs.map Record.definition := by
  obtain ⟨hblocks, hlegible⟩ := h
  generalize ts.flatMap recordBlocks = bs at hblocks ⊢
  induction hblocks with
  | nil => rfl
  | @cons b r bs rs hb _ ih =>
    obtain ⟨newlines, rfl⟩ := hb
    rw [List.filterMap_cons_some (definition_text (hlegible r List.mem_cons_self) newlines),
      ih fun s hs => hlegible s (List.mem_cons_of_mem _ hs), List.map_cons]

/-- The graph of texts is that of the definitions of the records that they hand over. -/
theorem Delivers.ofTexts_eq {ts : List Text} {rs : List Record} (h : Delivers ts rs) :
    Graph.ofTexts ts = (rs.map Record.definition).foldl Graph.define {} := by
  rw [Graph.ofTexts_eq, h.filterMap_ofText?]

namespace Transmission
variable (d : Transmission)

/-- The definitions of a transmission, in order. -/
def definitions : List Definition := (records d.text).map Record.definition

/-- A transmission hands over its records, as one text or cut between its records. -/
theorem delivers {ts : List Text} (hts : ts.flatMap recordBlocks = recordBlocks d.text) :
    Delivers ts (records d.text) :=
  ⟨hts ▸ d.recordBlocks_text, fun _ hr => d.isLegible_of_mem_records hr⟩

/-- The records of a transmission may be handed over one by one. -/
theorem flatMap_recordBlocks :
    (recordBlocks d.text).flatMap recordBlocks = recordBlocks d.text := by
  have hcut : ∀ {bs : List Text} {rs : List Record},
      List.Forall₂ (fun b (r : Record) => ∃ newlines, b = r.text newlines) bs rs →
      (∀ r ∈ rs, r.isLegible = true) → bs.flatMap recordBlocks = bs := by
    intro bs rs h
    induction h with
    | nil => exact fun _ => rfl
    | @cons b r bs rs hb _ ih =>
      intro hlegible
      obtain ⟨newlines, rfl⟩ := hb
      rw [List.flatMap_cons, Record.recordBlocks_text (hlegible r List.mem_cons_self),
        ih fun s hs => hlegible s (List.mem_cons_of_mem _ hs), List.singleton_append]
  exact hcut d.recordBlocks_text fun r hr => d.isLegible_of_mem_records hr

/-- The graph of the blocks of a transmission is that of its definitions. -/
theorem ofTexts_eq_foldl {ts : List Text} (hts : ts.flatMap recordBlocks = recordBlocks d.text) :
    Graph.ofTexts ts = d.definitions.foldl Graph.define {} :=
  (d.delivers hts).ofTexts_eq

end Transmission

/-! ## The pruned graph -/

/-- The records of a set of records that are of no use, by their keys: those of no
kept type that hold nothing, and those that only dead records refer to, if any does.
Keys that are referred to but not defined may be dead as well. -/
inductive Dead (rs : List Record) : String → Prop
  /-- A record that holds nothing. -/
  | empty {r : Record} (hr : r ∈ rs) (htype : r.tag ∉ Graph.keptTypes)
      (hempty : r.isEmpty = true) : Dead rs r.key
  /-- A record that only dead records refer to. -/
  | unreferenced {x : String} (htype : ∀ r ∈ rs, r.key = x → r.tag ∉ Graph.keptTypes)
      (hsources : ∀ r ∈ rs, x ∈ r.references → Dead rs r.key) : Dead rs x

namespace Graph

section Definitions
variable {g : Graph} {rs : List Record}

/-- The graph of some records. -/
abbrev Shows (g : Graph) (rs : List Record) : Prop :=
  View g (summary (rs.map Record.definition)) (Mentions (rs.map Record.definition))
    (RefersIn (rs.map Record.definition))

theorem refersIn_definitions {x y : String} :
    RefersIn (rs.map Record.definition) x y ↔ ∃ r ∈ rs, r.key = x ∧ y ∈ r.references := by
  constructor
  · rintro ⟨d, hd, hx, hy⟩
    obtain ⟨r, hr, rfl⟩ := List.mem_map.mp hd
    exact ⟨r, hr, hx, hy⟩
  · rintro ⟨r, hr, hx, hy⟩
    exact ⟨r.definition, List.mem_map_of_mem hr, hx, hy⟩

theorem mentions_definitions {r : Record} (hr : r ∈ rs) :
    Mentions (rs.map Record.definition) r.key :=
  ⟨r.definition, List.mem_map_of_mem hr, .inl rfl⟩

/-- What is known of the key of a record is what the record says, if no other record
has the key. -/
theorem summary_definitions (hkeys : (rs.map Record.key).Nodup) {r : Record} (hr : r ∈ rs) :
    summary (rs.map Record.definition) r.key =
      { xref := r.key, type := some r.tag, empty := r.isEmpty, minimal := r.isMinimal } := by
  have hdefinitions : ((rs.map Record.definition).map (·.key)).Nodup := by
    rw [List.map_map]
    exact hkeys
  exact summary_of_mem hdefinitions (List.mem_map_of_mem hr)

/-- Nothing is known of a key that no record has. -/
theorem summary_of_undefined {x : String} (hx : ∀ r ∈ rs, r.key ≠ x) :
    summary (rs.map Record.definition) x = { xref := x } := by
  have hkey : ∀ d ∈ rs.map Record.definition, (d.key == x) = false := by
    intro d hd
    obtain ⟨r, hr, rfl⟩ := List.mem_map.mp hd
    exact beq_false_of_ne (hx r hr)
  exact summary_of_forall_ne hkey

/-- Doomed positions are those of dead records. -/
theorem doomed_iff_dead (h : g.Shows rs) (hkeys : (rs.map Record.key).Nodup) {i : Nat} {x : String}
    (hi : g.xrefs[i]? = some x) : g.Doomed i ↔ Dead rs x := by
  constructor
  · intro hdoomed
    induction hdoomed generalizing x with
    | @empty i n hn hkept hempty =>
      have hknown := Option.some.inj (hn.symm.trans (h.nodes_of_xrefs hi))
      -- a key that is only referred to is not known to be empty
      by_cases hx : ∃ r ∈ rs, r.key = x
      · obtain ⟨r, hr, rfl⟩ := hx
        rw [hknown, summary_definitions hkeys hr] at hkept hempty
        exact .empty hr (by simpa [isKept] using hkept) hempty
      · rw [hknown, summary_of_undefined fun r hr hrx => hx ⟨r, hr, hrx⟩] at hempty
        cases hempty
    | @unreferenced i n hn hkept _ ih =>
      have hknown := Option.some.inj (hn.symm.trans (h.nodes_of_xrefs hi))
      refine .unreferenced (fun r hr hrx => ?_) fun r hr hx => ?_
      · subst hrx
        rw [hknown, summary_definitions hkeys hr] at hkept
        simpa [isKept] using hkept
      · obtain ⟨j, k, hl, hj, hk⟩ :=
          (h.refers_iff r.key x).mpr (refersIn_definitions.mpr ⟨r, hr, rfl, hx⟩)
        obtain rfl := position_unique h.nodup hi hk
        exact ih j hl hj
  · intro hdead
    -- a dead key has at most one position, and links to it come from records
    induction hdead generalizing i with
    | @empty r hr htype hempty =>
      have hn := h.nodes_of_xrefs hi
      rw [summary_definitions hkeys hr] at hn
      exact .empty hn (by simpa [isKept] using htype) hempty
    | @unreferenced x htype _ ih =>
      have hn := h.nodes_of_xrefs hi
      refine .unreferenced hn ?_ fun j hl => ?_
      · by_cases hx : ∃ r ∈ rs, r.key = x
        · obtain ⟨r, hr, rfl⟩ := hx
          rw [summary_definitions hkeys hr]
          simpa [isKept] using htype r hr rfl
        · rw [summary_of_undefined fun r hr hrx => hx ⟨r, hr, hrx⟩]
          rfl
      · have hjlt := (h.inRange (j, i) hl).1
        rw [← length_xrefs] at hjlt
        have hj := List.getElem?_eq_getElem hjlt
        obtain ⟨r, hr, hkey, hx⟩ :=
          refersIn_definitions.mp ((h.refers_iff _ x).mp ⟨j, i, hl, hj, hi⟩)
        exact ih r hr hx (hkey ▸ hj)

/-- The pruned graph knows of a record what the record says. -/
theorem find?_of_shows (h : g.Shows rs) (hkeys : (rs.map Record.key).Nodup) {r : Record}
    (hr : r ∈ rs) :
    g.prunePass.find? r.key = some
      { xref := r.key, type := some r.tag, empty := r.isEmpty, minimal := r.isMinimal } := by
  rw [find?_prunePass, h.find?_of_met (mentions_definitions hr), summary_definitions hkeys hr]

/-- The pruned graph knows which keys are those of empty records. -/
theorem isEmptyRecord_of_shows (h : g.Shows rs) (x : String) :
    g.prunePass.isEmptyRecord x = rs.any fun r => r.key == x && r.isEmpty := by
  rw [isEmptyRecord, find?_prunePass]
  have hempty : (summary (rs.map Record.definition) x).empty =
      rs.any fun r => r.key == x && r.isEmpty := by
    rw [summary, List.any_map]
    rfl
  by_cases hx : Mentions (rs.map Record.definition) x
  · rw [h.find?_of_met hx, Option.any_some, hempty]
  · rw [h.find?_of_not_met hx, ← hempty, summary_of_not_mentions hx]
    rfl

/-- **Of the records that may be cut off, the pruned graph has references exactly to
those that are not dead.** -/
theorem isReferenced_of_shows (h : g.Shows rs) (hkeys : (rs.map Record.key).Nodup) {r : Record}
    (hr : r ∈ rs) (htype : r.tag ∉ keptTypes) :
    g.prunePass.isReferenced r.key = true ↔ ¬Dead rs r.key := by
  have hmem : r.key ∈ g.xrefs := (h.mem_xrefs r.key).mpr (mentions_definitions hr)
  obtain ⟨i, hi⟩ := List.mem_iff_getElem?.mp hmem
  have hposition : g.prunePass.position? r.key = some i := by
    rw [position?, nodes_prunePass]
    exact (position?_eq_some h.nodup).mpr hi
  have hn := h.nodes_of_xrefs hi
  rw [summary_definitions hkeys hr] at hn
  rw [isReferenced, hposition, Option.any_some,
    hasSource_prunePass hn (by simpa [isKept] using htype), doomed_iff_dead h hkeys hi]

end Definitions

end Graph

/-- The graph of texts shows the records that they hand over. -/
theorem Delivers.shows {ts : List Text} {rs : List Record} (h : Delivers ts rs) :
    (Graph.ofTexts ts).Shows rs := by
  rw [h.ofTexts_eq]
  exact Graph.view_foldl_define (rs.map Record.definition)

/-- The graph of the blocks of a transmission shows its records. -/
theorem Transmission.shows_records (d : Transmission) {ts : List Text}
    (hts : ts.flatMap recordBlocks = recordBlocks d.text) :
    (Graph.ofTexts ts).Shows (records d.text) := by
  rw [d.ofTexts_eq_foldl hts]
  exact Graph.view_foldl_define d.definitions

/-- A filter that looks at references gets the pruned graph; pruning never fails. -/
theorem Application.references_eq {a : Application} (ha : a.filter.usesReferences = true)
    (ts : List Text) : a.references ts = .ok (Graph.ofTexts ts).prunePass := by
  obtain ⟨passes, hprune⟩ := Graph.prune_eq_ok (Graph.ofTexts ts)
  rw [Application.references, if_pos ha, hprune]

end Gedcom
