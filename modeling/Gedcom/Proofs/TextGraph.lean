import Gedcom.Proofs.Arena
import Gedcom.Proofs.LiveRules
import Gedcom.Proofs.PruneOrder
import Gedcom.Proofs.RecordLine
import Gedcom.Proofs.Recutting

/-!
# The reference graph that texts depict

Building a graph puts nodes in it when they are first named, fills in their types later, and
never takes back that a record holds nothing.  `Depicts` says what comes out of this, one
question after the other, by the characters of the texts and without regard to the order in
which records are named and defined: which keys there are, which of them are defined and as
what, who refers to whom, and of which records a definition holds nothing or tells nothing but
sex and families.

Order matters in one place.  If a key is defined more than once, its type is that of the first
definition.
-/
namespace Gedcom

/-! ## Lines that name records -/

namespace Line

/-- A line `n TAG @xref@`.  The number may have any digits, and the line may go on. -/
def Names (l : Text) (xref : String) : Prop :=
  ∃ (number : Text) (tag : String) (rest : Text),
    l = number ++ ' ' :: (tag.toList ++ ' ' :: '@' :: (xref.toList ++ '@' :: rest)) ∧
      number ≠ [] ∧ (∀ c ∈ number, c.isDigit = true) ∧ isTag tag = true ∧ isXref xref = true

/-- A tag with a blank behind it. -/
theorem takeTag?_eq_some {t value : Text} {tag : String} :
    takeTag? t = some (tag, ' ' :: value) ↔
      t = tag.toList ++ ' ' :: value ∧ isTag tag = true := by
  constructor
  · intro h
    unfold takeTag? at h
    dsimp only at h
    split at h
    · cases h
    · rename_i hne
      obtain ⟨rfl, hdrop⟩ := Prod.mk.inj (Option.some.inj h)
      have hsplit := List.takeWhile_append_dropWhile (p := isTagChar) (l := t)
      rw [hdrop] at hsplit
      rw [isTag, String.toList_ofList, hsplit, Bool.and_eq_true, Bool.not_eq_true']
      exact ⟨rfl, Bool.not_eq_true _ ▸ hne,
        List.all_eq_true.mpr fun c hc => List.mem_takeWhile_imp hc⟩
  · rintro ⟨rfl, htag⟩
    obtain ⟨hne, hall⟩ := Bool.and_eq_true_iff.mp htag
    obtain ⟨htake, hdrop⟩ :=
      takeWhile_stop (c := ' ') (by decide) (List.all_eq_true.mp hall) value
    rw [takeTag?, htake, hdrop, if_neg (by simpa using hne), String.ofList_toList]

/-- **The record that a line names**, by the characters of the line. -/
theorem reference?_eq_some {l : Text} {xref : String} :
    reference? l = some xref ↔ Names l xref := by
  constructor
  · intro h
    unfold reference? at h
    split at h
    · cases h
    · rename_i hnumber
      split at h
      · rename_i body hdrop
        split at h
        · rename_i tag value hbody
          obtain ⟨⟨xref, rest⟩, hvalue, rfl⟩ := Option.map_eq_some_iff.mp h
          obtain ⟨rfl, htag⟩ := takeTag?_eq_some.mp hbody
          obtain ⟨rfl, hxref⟩ := takeXref?_eq_some.mp hvalue
          have hsplit := List.takeWhile_append_dropWhile (p := Char.isDigit) (l := l)
          rw [hdrop] at hsplit
          exact ⟨l.takeWhile Char.isDigit, tag, rest, hsplit.symm, by simpa using hnumber,
            fun c hc => List.mem_takeWhile_imp hc, htag, hxref⟩
        · cases h
      · cases h
  · rintro ⟨number, tag, rest, rfl, hne, hnumber, htag, hxref⟩
    obtain ⟨htake, hdrop⟩ := takeWhile_stop (p := Char.isDigit) (c := ' ') (by decide) hnumber
      (tag.toList ++ ' ' :: '@' :: (xref.toList ++ '@' :: rest))
    have hbody : takeTag? (tag.toList ++ ' ' :: '@' :: (xref.toList ++ '@' :: rest)) =
        some (tag, ' ' :: '@' :: (xref.toList ++ '@' :: rest)) :=
      takeTag?_eq_some.mpr ⟨rfl, htag⟩
    have hvalue : takeXref? ('@' :: (xref.toList ++ '@' :: rest)) = some (xref, rest) :=
      takeXref?_eq_some.mpr ⟨rfl, hxref⟩
    simp only [reference?, htake, hdrop, hbody, hvalue, Option.map_some]
    rw [if_neg (by simpa using hne)]

end Line

/-! ## Texts that define records -/

/-- A text defines a record under a key: its first line can be read and is of level 0, and the
key is the identifier in it, or the tag if it has none. -/
structure Text.Defines (b : Text) (head : Line) (key : String) : Prop where
  reads : Line.ofLine? (Text.firstLine b) = some head
  level : head.level = 0
  key : head.xref.getD head.tag = key

namespace Definition
variable {b : Text} {bs : List Text} {head : Line} {x : String}

/-- What a text says of the record that it defines, given its first line. -/
def ofHead (b : Text) (head : Line) : Definition where
  key := head.xref.getD head.tag
  type := head.tag
  empty := Graph.holdsNothing head (Text.afterFirstLine b)
  minimal := head.tag == "INDI" && Graph.holdsMinimum (Text.lines b).tail
  references := (Text.lines b).filterMap Line.reference?

theorem ofText?_eq_some {d : Definition} :
    ofText? b = some d ↔ ∃ head, Text.Defines b head d.key ∧ d = ofHead b head := by
  unfold ofText?
  cases hfirst : Line.ofLine? (Text.firstLine b) with
  | none =>
    rw [Line.ofTextAt, hfirst]
    refine iff_of_false (by simp) ?_
    rintro ⟨head, hdefines, _⟩
    cases hfirst.symm.trans hdefines.reads
  | some head =>
    rw [Line.ofTextAt, hfirst]
    dsimp only
    by_cases hlevel : head.level = 0
    · rw [if_pos hlevel]
      constructor
      · intro h
        obtain rfl := Option.some.inj h
        exact ⟨head, ⟨hfirst, hlevel, rfl⟩, rfl⟩
      · rintro ⟨head', hdefines, rfl⟩
        obtain rfl := Option.some.inj (hfirst.symm.trans hdefines.reads)
        rfl
    · rw [if_neg hlevel]
      refine iff_of_false (by simp) ?_
      rintro ⟨head', hdefines, _⟩
      obtain rfl := Option.some.inj (hfirst.symm.trans hdefines.reads)
      exact hlevel hdefines.level

/-- Asking for a definition in some texts is asking for a text that defines a record. -/
theorem exists_mem_filterMap {p : Definition → Prop} :
    (∃ d ∈ bs.filterMap ofText?, d.key = x ∧ p d) ↔
      ∃ b ∈ bs, ∃ head, Text.Defines b head x ∧ p (ofHead b head) := by
  constructor
  · rintro ⟨d, hd, rfl, hp⟩
    obtain ⟨b, hb, hread⟩ := List.mem_filterMap.mp hd
    obtain ⟨head, hdefines, hof⟩ := ofText?_eq_some.mp hread
    exact ⟨b, hb, head, hdefines, hof ▸ hp⟩
  · rintro ⟨b, hb, head, hdefines, hp⟩
    have hkey : (ofHead b head).key = x := hdefines.key
    have hread : ofText? b = some (ofHead b head) :=
      ofText?_eq_some.mpr ⟨head, hkey.symm ▸ hdefines, rfl⟩
    exact ⟨_, List.mem_filterMap.mpr ⟨b, hb, hread⟩, hkey, hp⟩

/-- The first definition of a key stands in the first text that defines it. -/
theorem find?_filterMap_eq_some {type : String} :
    ((bs.filterMap ofText?).find? fun d => d.key == x).map (·.type) = some type ↔
      ∃ before b after head, bs = before ++ b :: after ∧ Text.Defines b head x ∧
        head.tag = type ∧ ∀ c ∈ before, ∀ line, ¬Text.Defines c line x := by
  have hdefines : ∀ b, ((ofText? b).any fun d => d.key == x) = true ↔
      ∃ head, Text.Defines b head x := by
    intro b
    rw [Option.any_eq_true]
    constructor
    · rintro ⟨d, hd, hkey⟩
      obtain ⟨head, hdefines, _⟩ := ofText?_eq_some.mp hd
      exact ⟨head, eq_of_beq hkey ▸ hdefines⟩
    · rintro ⟨head, hdefines⟩
      have hkey : (ofHead b head).key = x := hdefines.key
      exact ⟨ofHead b head, ofText?_eq_some.mpr ⟨head, hkey.symm ▸ hdefines, rfl⟩,
        beq_iff_eq.mpr hkey⟩
  rw [List.find?_filterMap, Option.map_eq_some_iff]
  constructor
  · rintro ⟨d, hd, rfl⟩
    obtain ⟨b, hb, hread⟩ := Option.bind_eq_some_iff.mp hd
    obtain ⟨hany, before, after, rfl, hbefore⟩ := List.find?_eq_some_iff_append.mp hb
    obtain ⟨head, hhead, rfl⟩ := ofText?_eq_some.mp hread
    obtain ⟨head', hx⟩ := (hdefines b).mp hany
    obtain rfl := Option.some.inj (hhead.reads.symm.trans hx.reads)
    refine ⟨before, b, after, head, rfl, hx, rfl, fun c hc line hline => ?_⟩
    have hnone := hbefore c hc
    rw [(hdefines c).mpr ⟨line, hline⟩] at hnone
    cases hnone
  · rintro ⟨before, b, after, head, rfl, hhead, rfl, hbefore⟩
    have hkey : (ofHead b head).key = x := hhead.key
    refine ⟨ofHead b head, Option.bind_eq_some_iff.mpr ⟨b, ?_, ?_⟩, rfl⟩
    · refine List.find?_eq_some_iff_append.mpr
        ⟨(hdefines b).mpr ⟨head, hhead⟩, before, after, rfl, fun c hc => ?_⟩
      rw [Bool.not_eq_true', ← Bool.not_eq_true, hdefines]
      rintro ⟨line, hline⟩
      exact hbefore c hc line hline
    · exact ofText?_eq_some.mpr ⟨head, hkey.symm ▸ hhead, rfl⟩

/-- Records that are cut again define what they defined. -/
theorem filterMap_recordBlocks (t : Text) :
    ((recordBlocks t).flatMap recordBlocks).filterMap ofText? =
      (recordBlocks t).filterMap ofText? := by
  have hnone : ∀ b : Text, (if (!b.isEmpty) = true then ofText? b else none) = ofText? b := by
    intro b
    cases b <;> rfl
  rw [flatMap_recordBlocks, List.filterMap_filter]
  exact congrArg (fun f => (recordBlocks t).filterMap f) (funext hnone)

theorem empty_ofHead :
    (ofHead b head).empty = true ↔
      head.value = [] ∧ (∀ c ∈ Text.afterFirstLine b, Text.isBlank c = true) ∧
        head.tag ≠ "HEAD" ∧ head.tag ≠ "TRLR" := by
  simp only [ofHead, Graph.holdsNothing, Bool.and_eq_true, List.isEmpty_iff, List.all_eq_true,
    Bool.not_eq_true', Bool.or_eq_false_iff, beq_eq_false_iff_ne, and_assoc]

theorem minimal_ofHead (hdefines : Text.Defines b head x) :
    (ofHead b head).minimal = true ↔
      head.tag = "INDI" ∧ ∀ l ∈ Text.lines b, ∀ line, Line.ofLine? l = some line →
        line.level = 1 → line.tag ∈ ["SEX", "FAMC", "FAMS"] := by
  have hminimum : ∀ ls, Graph.holdsMinimum ls = true ↔
      ∀ l ∈ ls, ∀ line, Line.ofLine? l = some line → line.level = 1 →
        line.tag ∈ ["SEX", "FAMC", "FAMS"] := by
    intro ls
    rw [Graph.holdsMinimum, List.all_eq_true]
    constructor
    · intro h l hl line hline hlevel
      have hone : hasLevel 1 l = true := by
        rw [hasLevel, Line.levelOf?_of_ofLine? hline, hlevel]
        rfl
      have htag := h l (List.mem_filter.mpr ⟨hl, hone⟩)
      rw [hline] at htag
      exact List.contains_iff_mem.mp htag
    · intro h l hl
      obtain ⟨hl, hone⟩ := List.mem_filter.mp hl
      cases hline : Line.ofLine? l with
      | none => rfl
      | some line =>
        rw [hasLevel, Line.levelOf?_of_ofLine? hline, beq_iff_eq, Option.some.injEq] at hone
        exact List.contains_iff_mem.mpr (h l hl line hline hone)
  obtain ⟨ls, hls⟩ := Text.exists_lines_eq b
  rw [ofHead, Bool.and_eq_true, beq_iff_eq, hminimum, hls, List.tail_cons]
  refine and_congr_right fun _ => ⟨fun h l hl line hline hlevel => ?_, fun h l hl =>
    h l (List.mem_cons_of_mem _ hl)⟩
  rcases List.mem_cons.mp hl with rfl | hl
  · obtain rfl := Option.some.inj (hdefines.reads.symm.trans hline)
    exact absurd (hdefines.level.symm.trans hlevel) Nat.zero_ne_one
  · exact h l hl line hline hlevel

theorem mem_references_ofHead :
    x ∈ (ofHead b head).references ↔ ∃ l ∈ Text.lines b, Line.Names l x := by
  rw [ofHead, List.mem_filterMap]
  exact exists_congr fun l => and_congr_right fun _ => Line.reference?_eq_some

end Definition

/-! ## The graph of texts -/

namespace Graph

/-- A graph depicts some texts, each of which may define a record. -/
structure Depicts (g : Graph) (bs : List Text) : Prop where
  /-- A key has one node. -/
  nodup : g.xrefs.Nodup
  /-- The keys are those of the records that are defined, and of those that are named by a line
  of a text that defines a record. -/
  mem_xrefs : ∀ x, x ∈ g.xrefs ↔ ∃ b ∈ bs, ∃ head key, Text.Defines b head key ∧
    (key = x ∨ ∃ l ∈ Text.lines b, Line.Names l x)
  /-- A record exists if it is defined anywhere. -/
  defines_iff : ∀ x, g.defines x = true ↔ ∃ b ∈ bs, ∃ head, Text.Defines b head x
  /-- Its type is the tag of its first definition. -/
  type_iff : ∀ x type, (g.find? x).bind (·.type) = some type ↔
    ∃ before b after head, bs = before ++ b :: after ∧ Text.Defines b head x ∧
      head.tag = type ∧ ∀ c ∈ before, ∀ line, ¬Text.Defines c line x
  /-- It refers to the records that the lines of its definitions name. -/
  mem_referencesOf : ∀ x y, y ∈ g.referencesOf x ↔ ∃ b ∈ bs, ∃ head, Text.Defines b head x ∧
    ∃ l ∈ Text.lines b, Line.Names l y
  /-- Seen from the other end, the references are the same. -/
  mem_referrersOf : ∀ x y, x ∈ g.referrersOf y ↔ y ∈ g.referencesOf x
  /-- It is empty if a definition of it has neither a value nor anything but blanks after its
  first line, and is not that of a header or trailer. -/
  isEmptyRecord_iff : ∀ x, g.isEmptyRecord x = true ↔ ∃ b ∈ bs, ∃ head, Text.Defines b head x ∧
    head.value = [] ∧ (∀ c ∈ Text.afterFirstLine b, Text.isBlank c = true) ∧
      head.tag ≠ "HEAD" ∧ head.tag ≠ "TRLR"
  /-- It is a minimal individual if it is defined as an individual in a text whose lines of
  level 1, as far as they can be read, tell nothing but sex and families. -/
  isMinimalIndividual_iff : ∀ x, g.isMinimalIndividual x = true ↔
    ∃ b ∈ bs, ∃ head, Text.Defines b head x ∧ head.tag = "INDI" ∧
      ∀ l ∈ Text.lines b, ∀ line, Line.ofLine? l = some line → line.level = 1 →
        line.tag ∈ ["SEX", "FAMC", "FAMS"]

/-- Whoever refers to a record is among those that refer to it. -/
theorem mem_referrersOf {g : Graph} (hnodup : g.xrefs.Nodup) {x y : String} :
    x ∈ g.referrersOf y ↔ y ∈ g.referencesOf x := by
  have hreferences : y ∈ Arena.neighboursOf g .references x ↔ _ := Arena.mem_neighboursOf hnodup
  have hreferrers : x ∈ Arena.neighboursOf g .referrers y ↔ _ := Arena.mem_neighboursOf hnodup
  refine hreferrers.trans (Iff.trans ?_ hreferences.symm)
  constructor
  · rintro ⟨j, i, hj, hi, hl⟩
    exact ⟨i, j, hi, hj, hl⟩
  · rintro ⟨i, j, hi, hj, hl⟩
    exact ⟨j, i, hj, hi, hl⟩

section Summary
variable {bs : List Text} {x : String}

theorem mentions_iff :
    Mentions (bs.filterMap Definition.ofText?) x ↔ ∃ b ∈ bs, ∃ head key,
      Text.Defines b head key ∧ (key = x ∨ ∃ l ∈ Text.lines b, Line.Names l x) := by
  have hkeys : Mentions (bs.filterMap Definition.ofText?) x ↔ ∃ key,
      ∃ d ∈ bs.filterMap Definition.ofText?, d.key = key ∧ (key = x ∨ x ∈ d.references) := by
    constructor
    · rintro ⟨d, hd, h⟩
      exact ⟨d.key, d, hd, rfl, h⟩
    · rintro ⟨key, d, hd, rfl, h⟩
      exact ⟨d, hd, h⟩
  rw [hkeys]
  constructor
  · rintro ⟨key, h⟩
    obtain ⟨b, hb, head, hdefines, h⟩ := Definition.exists_mem_filterMap.mp h
    exact ⟨b, hb, head, key, hdefines, h.imp_right Definition.mem_references_ofHead.mp⟩
  · rintro ⟨b, hb, head, key, hdefines, h⟩
    exact ⟨key, Definition.exists_mem_filterMap.mpr
      ⟨b, hb, head, hdefines, h.imp_right Definition.mem_references_ofHead.mpr⟩⟩

/-- What a graph answers of a key is read off what is known of it. -/
theorem any_find? (g : Graph) {f : Node → Bool} (hf : f { xref := x } = false) :
    (g.find? x).any f = f (g.known x) := by
  rw [known]
  cases g.find? x with
  | none => exact hf.symm
  | some n => rfl

theorem bind_type_find? (g : Graph) (x : String) :
    (g.find? x).bind (·.type) = (g.known x).type := by
  rw [known]
  cases g.find? x <;> rfl

/-- A flag of a record is set if it is set in some definition. -/
theorem any_definitions_iff {p : Definition → Bool} :
    ((bs.filterMap Definition.ofText?).any fun d => d.key == x && p d) = true ↔
      ∃ b ∈ bs, ∃ head, Text.Defines b head x ∧ p (.ofHead b head) = true := by
  rw [List.any_eq_true]
  simp only [Bool.and_eq_true, beq_iff_eq]
  exact Definition.exists_mem_filterMap

theorem isSome_type_summary :
    (summary (bs.filterMap Definition.ofText?) x).type.isSome = true ↔
      ∃ b ∈ bs, ∃ head, Text.Defines b head x := by
  have hfind : (∃ d ∈ bs.filterMap Definition.ofText?, d.key = x) ↔
      ∃ b ∈ bs, ∃ head, Text.Defines b head x := by
    simpa only [and_true] using Definition.exists_mem_filterMap (p := fun _ => True)
  rw [summary, Option.isSome_map, List.find?_isSome, ← hfind]
  exact exists_congr fun d => and_congr_right fun _ => beq_iff_eq

end Summary

/-- **The reference graph of some texts depicts their records**, and it makes no difference
whether a text is cut into its records first. -/
theorem ofTexts_depicts (ts : List Text) :
    (ofTexts ts).Depicts (ts.flatMap recordBlocks) ∧
      ∀ t, ofTexts (recordBlocks t) = ofTexts [t] := by
  refine ⟨?_, fun t => ?_⟩
  · have hview := view_foldl_define ((ts.flatMap recordBlocks).filterMap Definition.ofText?)
    rw [← ofTexts_eq] at hview
    have hknown := hview.known_eq fun x hx => summary_of_not_mentions hx
    have hreferences : ∀ x y, y ∈ (ofTexts ts).referencesOf x ↔ (ofTexts ts).Refers x y :=
      fun x y => mem_referencesOf (hview.regular fun x hx => summary_of_not_mentions hx)
    refine
      { nodup := hview.nodup
        mem_xrefs := fun x => (hview.mem_xrefs x).trans mentions_iff
        defines_iff := fun x => ?_
        type_iff := fun x type => ?_
        mem_referencesOf := fun x y => ?_
        mem_referrersOf := fun x y => ?_
        isEmptyRecord_iff := fun x => ?_
        isMinimalIndividual_iff := fun x => ?_ }
    · rw [defines, any_find? _ rfl, hknown, isSome_type_summary]
    · rw [bind_type_find?, hknown, summary, Definition.find?_filterMap_eq_some]
    · rw [hreferences, hview.refers_iff]
      refine Definition.exists_mem_filterMap.trans ?_
      exact exists_congr fun b => and_congr_right fun _ => exists_congr fun head =>
        and_congr_right fun _ => Definition.mem_references_ofHead
    · exact mem_referrersOf hview.nodup
    · rw [isEmptyRecord, any_find? _ rfl, hknown, summary, any_definitions_iff]
      exact exists_congr fun b => and_congr_right fun _ => exists_congr fun head =>
        and_congr_right fun _ => Definition.empty_ofHead
    · rw [isMinimalIndividual, any_find? _ rfl, hknown, summary, any_definitions_iff]
      exact exists_congr fun b => and_congr_right fun _ => exists_congr fun head =>
        and_congr_right fun hdefines => Definition.minimal_ofHead hdefines
  · rw [ofTexts_eq, ofTexts_eq, Definition.filterMap_recordBlocks, List.flatMap_singleton]

/-- A note that is named before it is defined, and defined twice, is a note as the first
definition says, and empty as this definition says; nobody defines the source. -/
example :
    ofTexts ["0 @I1@ INDI\n1 SOUR @S1@\n1 NOTE @N1@\n".toList,
      "0 @N1@ NOTE\n0 @N1@ SNOTE Ada\n".toList] =
      { nodes := [{ xref := "I1", type := some "INDI" }, { xref := "S1" },
          { xref := "N1", type := some "NOTE", empty := true }],
        links := [(0, 1), (0, 2)] } := by
  decide +kernel

end Graph
end Gedcom
