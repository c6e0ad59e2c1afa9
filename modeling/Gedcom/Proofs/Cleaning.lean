import Gedcom.Filter.Cleaner
import Gedcom.Proofs.Dropping
import Gedcom.Proofs.RecordLine

/-!
# What a cleaner leaves of a transmission

A cleaner drops records that hold nothing, records that are of no use, and pointers to
records that hold nothing; it may also reduce individuals of whom nothing is told.
`run_toFilter` reads what is left off the records of the transmission alone: every
record is dropped (`Removes`), reduced, or left without some of its pointers
(`drops`), and the records stay in their order.

That takes three things.  What the hook asks of the graph is what the records say
(`Proofs.RecordGraph`); the hook decides by the first line of a structure, so that it
does not matter that it gets to see what is left of it (`Proofs.Dropping`); and the rules
hand over the lines on certain paths, which `looksAt` lists.
-/
namespace Gedcom

namespace Cleaner

/-! ## What is left of a record -/

/-- The types of the records that a cleaner may drop. -/
def recordTypes : List String := ["FAM", "INDI", "NOTE", "OBJE", "REPO", "SOUR", "_LOC"]

/-- The tags of pointers that may stand in records of all types. -/
def commonTags : List String := ["NOTE", "OBJE", "SOUR"]

/-- Whether a cleaner looks at the lines on a path.  It looks at nothing of a header. -/
def looksAt : List String → Bool
  | [] => false
  | record :: path => record != "HEAD" &&
    match path with
    | [] => recordTypes.contains record
    | [tag] =>
      commonTags.contains tag || record == "FAM" && ["CHIL", "HUSB", "WIFE"].contains tag ||
        record == "INDI" && ["ALIA", "ASSO"].contains tag || record == "SOUR" && tag == "REPO"
    | [_, tag] => commonTags.contains tag || ["FAM", "INDI"].contains record && tag == "_ASSO"
    | [_, _, tag] => commonTags.contains tag
    | [_, _, _, tag] => tag == "OBJE"
    | _ => false

/-- Whether a line points to a record that holds nothing. -/
def pointsToEmpty (rs : List Record) (l : Text) : Bool :=
  (Line.ofLine? l).any fun line =>
    line.pointer?.any fun x => rs.any fun r => r.key == x && r.isEmpty

/-- Whether a cleaner drops the structures on a path with a first line. -/
def drops (k : Cleaner) (rs : List Record) (path : List String) (l : Text) : Bool :=
  k.dropsVoidPointers && looksAt path && pointsToEmpty rs l

/-- Whether a cleaner drops a record.  A record with an identifier is dropped if it holds
nothing or, unless it is an individual, if it is of no use; a record without one is a
pointer like any other. -/
def Removes (k : Cleaner) (rs : List Record) (r : Record) : Prop :=
  match r.xref? with
  | some _ => r.tag ∈ recordTypes ∧
      (k.dropsEmpty = true ∧ r.isEmpty = true ∨
        k.dropsUnlinked = true ∧ r.tag ≠ "INDI" ∧ Dead rs r.key)
  | none => k.drops rs [r.tag] r.head = true

/-- The line of an individual and nothing else. -/
def bare (xref : String) : Record where
  head := "0 @".toList ++ xref.toList ++ "@ INDI".toList
  below := .empty

/-- A record without the pointers that a cleaner drops. -/
def trimmed (k : Cleaner) (rs : List Record) (r : Record) : Record :=
  { r with below := r.below.without (k.drops rs) [r.tag] }

/-- What a cleaner leaves of a record that it does not drop. -/
def reduced (k : Cleaner) (rs : List Record) (r : Record) : Record :=
  match r.xref? with
  | some xref => if k.reducesMinimal && r.isMinimal then bare xref else k.trimmed rs r
  | none => k.trimmed rs r

open Classical in
/-- What a cleaner leaves of a record, if anything. -/
noncomputable def cleaned (k : Cleaner) (rs : List Record) (r : Record) : Option Record :=
  if k.Removes rs r then none else some (k.reduced rs r)

/-! ## The rules -/

/-- The patterns of the rules that keep a header as it is. -/
def inertPatterns : List String := ["HEAD", "HEAD:*"]

/-- The patterns of the rules that hand over structures. -/
def hookedPatterns : List String :=
  ["FAM:CHIL", "FAM:HUSB", "FAM:WIFE", "FAM:*:_ASSO", "INDI:ALIA", "INDI:ASSO", "INDI:*:_ASSO",
    "*:NOTE", "*:*:NOTE", "*:*:*:NOTE", "*:OBJE", "*:*:OBJE", "*:*:*:OBJE", "*:*:*:*:OBJE",
    "SOUR:REPO", "*:SOUR", "*:*:SOUR", "*:*:*:SOUR",
    "FAM", "INDI", "NOTE", "OBJE", "REPO", "SOUR", "_LOC"]

/-- The rules of a cleaner, ready to run. -/
def readyRules : ReadyRules where
  rules := inertPatterns.map (fun p => ⟨⟨p⟩, []⟩) ++
    (hookedPatterns.map (fun p => ⟨⟨p⟩, [.convert]⟩) ++ [⟨⟨"*"⟩, []⟩])

/-- The rules of a cleaner are valid, whatever its name and the parameters are. -/
theorem compile_toFilter (k : Cleaner) (ps : Params) : k.toFilter.compile ps = .ok readyRules :=
  (rfl)

/-- A cleaner that is being applied. -/
def application (k : Cleaner) (ps : Params) : Application := ⟨k.toFilter, readyRules, ps⟩

/-- The tags of the patterns that hand over structures. -/
def hookedTags : List (List String) :=
  [["FAM", "CHIL"], ["FAM", "HUSB"], ["FAM", "WIFE"], ["FAM", "*", "_ASSO"], ["INDI", "ALIA"],
    ["INDI", "ASSO"], ["INDI", "*", "_ASSO"], ["*", "NOTE"], ["*", "*", "NOTE"],
    ["*", "*", "*", "NOTE"], ["*", "OBJE"], ["*", "*", "OBJE"], ["*", "*", "*", "OBJE"],
    ["*", "*", "*", "*", "OBJE"], ["SOUR", "REPO"], ["*", "SOUR"], ["*", "*", "SOUR"],
    ["*", "*", "*", "SOUR"], ["FAM"], ["INDI"], ["NOTE"], ["OBJE"], ["REPO"], ["SOUR"], ["_LOC"]]

theorem map_tags_hookedPatterns : hookedPatterns.map (fun p => Pattern.tags ⟨p⟩) = hookedTags := by
  decide

theorem getLast?_hookedTags : ∀ p ∈ hookedTags, p ≠ [] ∧ p.getLast? ≠ some wildcard := by
  decide

theorem mem_hookedTags {p : String} (hp : p ∈ hookedPatterns) :
    Pattern.tags ⟨p⟩ ≠ [] ∧ (Pattern.tags ⟨p⟩).getLast? ≠ some wildcard := by
  refine getLast?_hookedTags _ ?_
  rw [← map_tags_hookedPatterns]
  exact List.mem_map_of_mem hp

theorem onlyConverts (k : Cleaner) (ps : Params) : (k.application ps).OnlyConverts where
  keeps := by
    show ∀ r ∈ readyRules.rules, r.pattern.excludes = false
    decide
  decides := by
    intro path hpath
    refine ⟨⟨⟨"*"⟩, []⟩, List.mem_append_right _ (List.mem_append_right _ (by simp)), ?_⟩
    have htags : Pattern.tags ⟨"*"⟩ = ["*"] := by decide
    rw [Pattern.admits, htags]
    match path with
    | [_] => rfl
    | _ :: _ :: _ => rfl
  ops := by
    intro r hr
    rcases List.mem_append.mp hr with hr | hr
    · obtain ⟨p, _, rfl⟩ := List.mem_map.mp hr
      exact .inl rfl
    · rcases List.mem_append.mp hr with hr | hr
      · obtain ⟨p, hp, rfl⟩ := List.mem_map.mp hr
        exact .inr ⟨rfl, (mem_hookedTags hp).2⟩
      · rw [List.mem_singleton.mp hr]
        exact .inl rfl

variable {path : List String}

/-- The header's rules decide on everything of a header and on nothing else. -/
theorem any_inertPatterns {record : String} (hwildcard : wildcard ∉ record :: path) :
    (inertPatterns.any fun p => Pattern.admits ⟨p⟩ (record :: path)) = (record == "HEAD") := by
  have hhead : Pattern.tags ⟨"HEAD"⟩ = ["HEAD"] := by decide
  have hbelow : Pattern.tags ⟨"HEAD:*"⟩ = ["HEAD", "*"] := by decide
  have hrecord : record ≠ "*" := fun h => hwildcard (h ▸ List.mem_cons_self)
  rw [inertPatterns, List.any_cons, List.any_cons, List.any_nil, Pattern.admits, Pattern.admits,
    hhead, hbelow, Bool.or_false, BEq.comm (a := record)]
  match path with
  | [] => simp [matchTags, hrecord, wildcard]
  | [_] => simp [matchTags, wildcard]
  | _ :: _ :: _ => simp [matchTags, wildcard]

theorem any_tagsAgree (record : String) (path : List String) :
    (record != "HEAD" && hookedTags.any fun p => tagsAgree p (record :: path)) =
      looksAt (record :: path) := by
  rw [Bool.eq_iff_iff]
  match path with
  | [] =>
    simp [hookedTags, tagsAgree, looksAt, recordTypes, wildcard]
    grind
  | [tag] =>
    simp [hookedTags, tagsAgree, looksAt, commonTags, wildcard]
    grind
  | [_, tag] =>
    simp [hookedTags, tagsAgree, looksAt, commonTags, wildcard]
    grind
  | [_, _, tag] =>
    simp [hookedTags, tagsAgree, looksAt, commonTags, wildcard]
    grind
  | [_, _, _, tag] =>
    simp [hookedTags, tagsAgree, looksAt, wildcard]
    grind
  | _ :: _ :: _ :: _ :: _ :: _ => simp [hookedTags, tagsAgree, looksAt]

theorem admits_of_mem_hookedPatterns {p : String} (hp : p ∈ hookedPatterns)
    (hwildcard : wildcard ∉ path) :
    Pattern.admits ⟨p⟩ path = tagsAgree (Pattern.tags ⟨p⟩) path :=
  matchTags_eq_tagsAgree (mem_hookedTags hp).1 (mem_hookedTags hp).2 hwildcard

/-- The patterns that hand over structures match the paths that a cleaner looks at, the
header apart. -/
theorem any_hookedPatterns {record : String} (hwildcard : wildcard ∉ record :: path) :
    (record != "HEAD" && hookedPatterns.any fun p => Pattern.admits ⟨p⟩ (record :: path)) =
      looksAt (record :: path) := by
  rw [← any_tagsAgree, ← map_tags_hookedPatterns, List.any_map]
  -- tags of a line are no wildcards, so that patterns match tag by tag
  congr 1
  rw [Bool.eq_iff_iff, List.any_eq_true, List.any_eq_true]
  refine exists_congr fun p => and_congr_right fun hp => ?_
  rw [admits_of_mem_hookedPatterns hp hwildcard]
  rfl

theorem ruleAt_application (k : Cleaner) (ps : Params) (path : List String) :
    (k.application ps).ruleAt path =
      ((inertPatterns.find? fun p => Pattern.admits ⟨p⟩ path).map fun p => ⟨⟨p⟩, []⟩).or
        (((hookedPatterns.find? fun p => Pattern.admits ⟨p⟩ path).map fun p =>
            ⟨⟨p⟩, [.convert]⟩).or
          ([⟨⟨"*"⟩, []⟩].find? fun r => r.pattern.admits path)) := by
  show (readyRules.rules.find? fun r => r.pattern.admits path) = _
  rw [readyRules, List.find?_append, List.find?_append, List.find?_map, List.find?_map]
  rfl

/-- On a path that a cleaner looks at, a rule decides that hands over the structure. -/
theorem ruleAt_of_looksAt (k : Cleaner) (ps : Params) (hwildcard : wildcard ∉ path)
    (hlooks : looksAt path = true) :
    ∃ p ∈ hookedPatterns, (k.application ps).ruleAt path = some ⟨⟨p⟩, [.convert]⟩ ∧
      tagsAgree (Pattern.tags ⟨p⟩) path = true := by
  cases path with
  | nil => cases hlooks
  | cons record path =>
    rw [← any_hookedPatterns hwildcard, Bool.and_eq_true] at hlooks
    obtain ⟨hrecord, hhooked⟩ := hlooks
    have hinert : inertPatterns.find? (fun p => Pattern.admits ⟨p⟩ (record :: path)) = none := by
      have hany := any_inertPatterns hwildcard
      rw [beq_false_of_ne (bne_iff_ne.mp hrecord), List.any_eq_false] at hany
      exact List.find?_eq_none.mpr hany
    cases hfind : hookedPatterns.find? fun p => Pattern.admits ⟨p⟩ (record :: path) with
    | none =>
      obtain ⟨p, hp, hadmits⟩ := List.any_eq_true.mp hhooked
      exact absurd hadmits (List.find?_eq_none.mp hfind p hp)
    | some p =>
      have hp := List.mem_of_find?_eq_some hfind
      have hadmits : Pattern.admits ⟨p⟩ (record :: path) = true :=
        List.find?_some (p := fun p => Pattern.admits ⟨p⟩ (record :: path)) hfind
      refine ⟨p, hp, ?_, admits_of_mem_hookedPatterns hp hwildcard ▸ hadmits⟩
      rw [ruleAt_application, hinert, hfind]
      rfl

/-- On all other paths a rule decides that does nothing. -/
theorem ops_of_not_looksAt (k : Cleaner) (ps : Params) (hwildcard : wildcard ∉ path)
    (hlooks : looksAt path = false) {rule : ReadyRule}
    (hrule : (k.application ps).ruleAt path = some rule) : rule.ops = [] := by
  rw [ruleAt_application, Option.or_eq_some_iff, Option.or_eq_some_iff] at hrule
  rcases hrule with hinert | ⟨hinert, hhooked | ⟨_, hany⟩⟩
  · obtain ⟨p, _, rfl⟩ := Option.map_eq_some_iff.mp hinert
    rfl
  · obtain ⟨p, hp, rfl⟩ := Option.map_eq_some_iff.mp hhooked
    have hadmits : Pattern.admits ⟨p⟩ path = true :=
      List.find?_some (p := fun p => Pattern.admits ⟨p⟩ path) hp
    cases path with
    | nil =>
      rw [Pattern.admits_nil] at hadmits
      cases hadmits
    | cons record path =>
      have hhooked : (hookedPatterns.any fun p => Pattern.admits ⟨p⟩ (record :: path)) = true :=
        List.any_eq_true.mpr ⟨p, List.mem_of_find?_eq_some hp, hadmits⟩
      rw [← any_hookedPatterns hwildcard, hhooked, Bool.and_true] at hlooks
      -- the path is that of a header, and the rules for headers come first
      have hhead := any_inertPatterns hwildcard
      rw [bne_eq_false_iff_eq.mp hlooks, beq_self_eq_true] at hhead
      obtain ⟨q, hq, hadmits'⟩ := List.any_eq_true.mp hhead
      rw [Option.map_eq_none_iff, bne_eq_false_iff_eq.mp hlooks] at hinert
      exact absurd hadmits' (List.find?_eq_none.mp hinert q hq)
  · rw [List.mem_singleton.mp (List.mem_of_find?_eq_some hany)]

/-! ## What the hook does -/

variable {rs : List Record} {g : Graph}

/-- A structure that is no record is dropped if its first line points to a record that
holds nothing. -/
theorem cleanStructure_eq (k : Cleaner) (h : g.Shows rs) {level : Nat} {l : Text}
    (hl : Line.isLegible level l = true) (t : Text) :
    k.cleanStructure (l ++ '\n' :: t) g.prunePass =
      if k.dropsVoidPointers && pointsToEmpty rs l then [] else l ++ '\n' :: t := by
  obtain ⟨line, hline, _⟩ := Line.exists_of_isLegible hl
  have hempty : line.pointer?.any g.prunePass.isEmptyRecord = pointsToEmpty rs l := by
    rw [pointsToEmpty, hline, Option.any_some]
    cases line.pointer? with
    | none => rfl
    | some x => exact Graph.isEmptyRecord_of_shows h x
  rw [cleanStructure, Text.firstLine_append_newline (Line.newline_notMem_of_isLegible hl), hline]
  dsimp only
  rw [hempty]
  cases k.dropsVoidPointers <;> rfl

/-- On the paths that it looks at a cleaner hands structures to its hook, on all others
it leaves them as they are. -/
theorem yields_finish (k : Cleaner) (ps : Params) (hpath : path ≠ [])
    (hwildcard : wildcard ∉ path) {t v : Text}
    (hlooks : looksAt path = true → ∀ p ∈ hookedPatterns,
      tagsAgree (Pattern.tags ⟨p⟩) path = true → k.hook p t ps g = .ok (v, g))
    (hidle : looksAt path = false → v = t) :
    Yields g
      ((k.application ps).finish path
        (firstMatch (k.application ps).rules.patterns path.dropLast)
        (firstMatch (k.application ps).rules.patterns path) t) v := by
  cases hlook : looksAt path with
  | true =>
    obtain ⟨p, hp, hat, hagree⟩ := ruleAt_of_looksAt k ps hwildcard hlook
    refine (onlyConverts k ps).yields_finish hpath hwildcard (fun rule hrule _ => ?_)
      fun rule hrule hops => ?_
    · obtain rfl := Option.some.inj (hat.symm.trans hrule)
      exact Application.yields_convert rfl (hlooks hlook p hp hagree)
    · obtain rfl := Option.some.inj (hat.symm.trans hrule)
      cases hops
  | false =>
    refine (onlyConverts k ps).yields_finish hpath hwildcard (fun rule hrule hops => ?_)
      fun _ _ _ => hidle hlook
    rw [ops_of_not_looksAt k ps hwildcard hlook hrule] at hops
    cases hops

/-- **Below the lines of the records a cleaner drops structures by their path and first
line.** -/
theorem dropsAt (k : Cleaner) (ps : Params) (h : g.Shows rs) :
    (k.application ps).DropsAt g.prunePass (k.drops rs) := by
  intro level path l t hlevel hl _ hwildcard
  have hne : path ++ [Line.tagOf l] ≠ [] := by simp
  have hfinish := yields_finish k ps (g := g.prunePass) (t := l ++ '\n' :: t)
    (v := if k.drops rs (path ++ [Line.tagOf l]) l then [] else l ++ '\n' :: t) hne hwildcard
    (fun hlooks p _ _ => by
      rw [hook, Line.recordXref?_of_pos hl hlevel]
      dsimp only
      rw [cleanStructure_eq k h hl, drops, hlooks, Bool.and_true])
    (fun hlooks => by
      rw [drops, hlooks, Bool.and_false, Bool.false_and]
      exact if_neg Bool.false_ne_true)
  rwa [List.dropLast_concat] at hfinish

/-! ## Records -/

theorem looksAt_singleton (tag : String) : looksAt [tag] = recordTypes.contains tag := by
  rw [looksAt]
  by_cases htag : tag = "HEAD"
  · subst htag
    decide
  · rw [bne_iff_ne.mpr htag, Bool.true_and]

/-- The rule that hands over a record names its type. -/
theorem eq_of_tagsAgree_singleton {p tag : String} (hp : p ∈ hookedPatterns)
    (h : tagsAgree (Pattern.tags ⟨p⟩) [tag] = true) : p = tag := by
  have hshort : ∀ p ∈ hookedPatterns, (Pattern.tags ⟨p⟩).length = 1 →
      Pattern.tags ⟨p⟩ = [p] ∧ p ≠ wildcard := by
    decide
  obtain ⟨htags, hne⟩ := hshort p hp (length_eq_of_tagsAgree h)
  rw [htags, tagsAgree, tagsAgree, Bool.and_true, Bool.or_eq_true, beq_iff_eq, beq_iff_eq] at h
  exact h.resolve_left hne

theorem written_bare (xref : String) :
    (bare xref).written = Line.render { level := 0, xref, tag := "INDI" } ++ ['\n'] := by
  rw [Record.written_eq]
  simp [bare, Outline.written, Outline.lines, Line.render]

variable {r : Record}

theorem key_of_xref? {xref : String} (hxref : r.xref? = some xref) : r.key = xref := by
  rw [Record.key, hxref]
  rfl

/-- What is left of the text of a record. -/
noncomputable def leavings (k : Cleaner) (rs : List Record) (r : Record) : Text :=
  ((k.cleaned rs r).map Record.written).getD []

/-- What the graph has to say on whether a record with an identifier is dropped. -/
theorem removes_iff (k : Cleaner) (h : g.Shows rs) (hkeys : (rs.map Record.key).Nodup)
    (hr : r ∈ rs) {xref : String} (hxref : r.xref? = some xref) (htype : r.tag ∈ recordTypes) :
    k.Removes rs r ↔
      (k.dropsEmpty && r.isEmpty ||
        r.tag != "INDI" && k.dropsUnlinked && !g.prunePass.isReferenced xref) = true := by
  rw [Removes, hxref]
  dsimp only
  rw [and_iff_right htype, Bool.or_eq_true, Bool.and_eq_true]
  refine or_congr_right ?_
  by_cases hperson : r.tag = "INDI"
  · simp [hperson]
  · have hkept : r.tag ∉ Graph.keptTypes := by
      have hothers : ∀ tag ∈ recordTypes, tag ≠ "INDI" → tag ∉ Graph.keptTypes := by
        decide
      exact hothers r.tag htype hperson
    have hdead : Dead rs r.key ↔ (!g.prunePass.isReferenced xref) = true := by
      rw [← key_of_xref? hxref, Bool.not_eq_true', ← Bool.not_eq_true,
        Graph.isReferenced_of_shows h hkeys hr hkept, not_not]
    rw [bne_iff_ne.mpr hperson, Bool.true_and, Bool.and_eq_true, hdead, and_iff_right hperson]

theorem leavings_of_removes {k : Cleaner} (h : k.Removes rs r) : k.leavings rs r = [] := by
  rw [leavings, cleaned, if_pos h]
  rfl

theorem leavings_of_not_removes {k : Cleaner} (h : ¬k.Removes rs r) :
    k.leavings rs r = (k.reduced rs r).written := by
  rw [leavings, cleaned, if_neg h]
  rfl

/-- What the hook does to a record with an identifier. -/
theorem cleanRecord_eq (k : Cleaner) (h : g.Shows rs) (hkeys : (rs.map Record.key).Nodup)
    (hr : r ∈ rs) {xref : String} (hxref : r.xref? = some xref) (htype : r.tag ∈ recordTypes) :
    k.cleanRecord r.tag (k.trimmed rs r).written xref g.prunePass = k.leavings rs r := by
  have hremoves := k.removes_iff h hkeys hr hxref htype
  have hfind := Graph.find?_of_shows h hkeys hr
  rw [key_of_xref? hxref] at hfind
  rw [cleanRecord, hfind]
  dsimp only
  by_cases hdrop : k.Removes rs r
  · rw [if_pos (hremoves.mp hdrop), leavings_of_removes hdrop]
  · rw [if_neg (mt hremoves.mpr hdrop), leavings_of_not_removes hdrop, reduced, hxref]
    dsimp only
    -- only individuals count as minimal
    have hreduces : (r.tag == "INDI" && k.reducesMinimal && r.isMinimal) =
        (k.reducesMinimal && r.isMinimal) := by
      rw [Record.isMinimal]
      cases r.tag == "INDI" <;> simp
    rw [hreduces]
    split
    · exact (written_bare xref).symm
    · rfl

/-- What the hook does to a record without an identifier. -/
theorem cleanStructure_head (k : Cleaner) (h : g.Shows rs) (hr : r.isLegible = true)
    (hxref : r.xref? = none) (htype : looksAt [r.tag] = true) :
    k.cleanStructure (k.trimmed rs r).written g.prunePass = k.leavings rs r := by
  have hremoves : k.Removes rs r ↔ (k.dropsVoidPointers && pointsToEmpty rs r.head) = true := by
    rw [Removes, hxref]
    dsimp only
    rw [drops, htype, Bool.and_true]
  rw [Record.written_eq]
  show k.cleanStructure (r.head ++ '\n' :: (k.trimmed rs r).below.written) _ = _
  rw [cleanStructure_eq k h (Bool.and_eq_true_iff.mp hr).1]
  by_cases hdrop : k.Removes rs r
  · rw [if_pos (hremoves.mp hdrop), leavings_of_removes hdrop]
  · rw [if_neg (mt hremoves.mpr hdrop), leavings_of_not_removes hdrop, reduced, hxref]
    exact (Record.written_eq (k.trimmed rs r)).symm

/-- A record of a type that a cleaner does not look at only loses pointers. -/
theorem leavings_of_not_looksAt (k : Cleaner) (htype : looksAt [r.tag] = false) :
    k.leavings rs r = (k.trimmed rs r).written := by
  have hother : r.tag ∉ recordTypes := by
    rw [looksAt_singleton] at htype
    simpa using htype
  have hminimal : r.isMinimal = false := by
    have hperson : r.tag ≠ "INDI" := fun htag => hother (htag ▸ by decide)
    rw [Record.isMinimal, beq_false_of_ne hperson, Bool.false_and]
  have hdrop : ¬k.Removes rs r := by
    rw [Removes]
    split
    · exact fun h => hother h.1
    · rw [drops, htype, Bool.and_false, Bool.false_and]
      exact Bool.false_ne_true
  rw [leavings_of_not_removes hdrop, reduced, hminimal, Bool.and_false]
  split <;> rfl

/-- What is left of a record is what the hook gives back of the record without the pointers
that are dropped, if the cleaner looks at records of its type. -/
theorem yields_recordRemnant_of_hook (k : Cleaner) (ps : Params) (h : g.Shows rs)
    (hlegible : r.isLegible = true) {v : Text}
    (hlooks : looksAt [r.tag] = true →
      k.hook r.tag (k.trimmed rs r).written ps g.prunePass = .ok (v, g.prunePass))
    (hidle : looksAt [r.tag] = false → v = (k.trimmed rs r).written) :
    Yields g.prunePass ((k.application ps).recordRemnant r) v := by
  obtain ⟨hhead, hbelow⟩ := Bool.and_eq_true_iff.mp hlegible
  have hwildcard : wildcard ∉ [r.tag] := by
    rw [List.mem_singleton]
    exact (Line.tagOf_ne_wildcard hhead).symm
  have hkeeps := (onlyConverts k ps).decisive.keepsLines
  have hinner := hkeeps.yields_outlineRemnant (dropsAt k ps h) Nat.one_pos hbelow
    (List.cons_ne_nil r.tag []) hwildcard
  have htext : r.head ++ '\n' :: (r.below.without (k.drops rs) [r.tag]).written =
      (k.trimmed rs r).written := (Record.written_eq (k.trimmed rs r)).symm
  have hfinish := yields_finish k ps (g := g.prunePass) (t := (k.trimmed rs r).written)
    (v := v) (List.cons_ne_nil r.tag []) hwildcard
    (fun hlook p hp hagree => by
      obtain rfl := eq_of_tagsAgree_singleton hp hagree
      exact hlooks hlook)
    hidle
  have hroot : firstMatch (k.application ps).rules.patterns [] = none := firstMatch_nil _
  rw [← htext] at hfinish
  rw [Application.recordRemnant, ← hroot]
  apply hkeeps.yields_entryRemnant
  · exact hinner
  · exact hfinish

/-- **What is left of a record** is what the records of the transmission say. -/
theorem yields_recordRemnant (k : Cleaner) (ps : Params) (h : g.Shows rs)
    (hkeys : (rs.map Record.key).Nodup) (hr : r ∈ rs) (hlegible : r.isLegible = true)
    (hplain : Line.isPlain r.head = true) :
    Yields g.prunePass ((k.application ps).recordRemnant r) (k.leavings rs r) := by
  obtain ⟨hhead, _⟩ := Bool.and_eq_true_iff.mp hlegible
  obtain ⟨line, hline, _⟩ := Line.exists_of_isLegible hhead
  -- the hook sees the text of the record without its pointers, but the same first line
  have hxref : Line.recordXref? (k.trimmed rs r).written = r.xref? := by
    rw [Record.written_eq, trimmed, Line.recordXref?_of_isPlain hline hhead hplain, Record.xref?,
      hline]
    rfl
  refine k.yields_recordRemnant_of_hook ps h hlegible (fun hlooks => ?_)
    (leavings_of_not_looksAt k)
  rw [hook, hxref]
  split
  · rename_i xref hx
    have htype : r.tag ∈ recordTypes := by
      rw [looksAt_singleton] at hlooks
      exact List.contains_iff_mem.mp hlooks
    rw [cleanRecord_eq k h hkeys hr hx htype]
  · rename_i hx
    rw [cleanStructure_head k h hlegible hx hlooks]

/-! ## Transmissions -/

/-- Of records that are dropped no text is left. -/
theorem filter_map_written (f : Record → Option Record) (qs : List Record) :
    ((qs.map fun r => ((f r).map Record.written).getD []).filter fun t => !t.isEmpty) =
      (qs.filterMap f).map Record.written := by
  induction qs with
  | nil => rfl
  | cons r qs ih =>
    rw [List.map_cons]
    cases hr : f r with
    | none =>
      rw [Option.map_none, Option.getD_none, List.filter_cons_of_neg (by simp),
        List.filterMap_cons_none hr, ih]
    | some q =>
      have hne : (!q.written.isEmpty) = true := by
        rw [Record.written_eq]
        cases q.head <;> rfl
      rw [Option.map_some, Option.getD_some, List.filter_cons, if_pos hne,
        List.filterMap_cons_some hr, ih, List.map_cons]

/-- Nothing but records that are dropped leave no text. -/
theorem filter_leavings (k : Cleaner) (rs qs : List Record) :
    ((qs.map (k.leavings rs)).filter fun t => !t.isEmpty) =
      (qs.filterMap (k.cleaned rs)).map Record.written :=
  filter_map_written (k.cleaned rs) qs

/-- **What a cleaner leaves of a transmission** is what it leaves of its records, in their
order: those that it does not remove, reduced or without the pointers that it drops.  The
transmission may be handed over as one text or as several, which are cut between its
records. -/
theorem run_toFilter (k : Cleaner) (ps : Params) (d : Transmission) {ts : List Text}
    (hts : ts.flatMap recordBlocks = recordBlocks d.text)
    (hplain : ∀ l ∈ d.lines, Line.isPlain l = true)
    (hkeys : ((records d.text).map Record.key).Nodup) (s : Run) :
    ∃ trace s', (k.toFilter.run ps ts).run s =
      (.ok (((records d.text).filterMap (k.cleaned (records d.text))).map Record.written, trace),
        s') := by
  have hshows := d.shows_records hts
  have hhead : ∀ r ∈ records d.text, Line.isPlain r.head = true := by
    intro r hr
    refine hplain r.head ?_
    rw [← d.flatMap_lines_records]
    exact List.mem_flatMap.mpr ⟨r, hr, List.mem_cons_self⟩
  have hyields : ∀ r ∈ records d.text, Yields (Graph.ofTexts ts).prunePass
      ((k.application ps).recordRemnant r) (k.leavings (records d.text) r) :=
    fun r hr => k.yields_recordRemnant ps hshows hkeys hr (d.isLegible_of_mem_records hr)
      (hhead r hr)
  obtain ⟨trace, s', hrun⟩ :=
    Application.run_of_yields d hts (Application.references_eq rfl ts) hyields s
  refine ⟨trace, s', ?_⟩
  rw [Filter.run, RunM.run_bind, compile_toFilter, RunM.run_ofExcept]
  rw [filter_leavings] at hrun
  exact hrun

/-- An estate: an individual with a note that holds nothing, and a source of no use. -/
def estate : Transmission where
  lines := ["0 HEAD", "0 @I1@ INDI", "1 NAME Ada", "1 NOTE @N1@", "0 @N1@ NOTE", "0 @S1@ SOUR",
    "1 TITL Diary", "0 TRLR"].map String.toList
  stepwise := by decide

/-- Note and source are dropped, and so is the pointer to the note. -/
theorem run_toFilter_estate :
    (∀ l ∈ estate.lines, Line.isPlain l = true) ∧
      ((records estate.text).map Record.key).Nodup ∧
      (∃ trace s', (emptyOrUnlinked.toFilter.run {} (recordBlocks estate.text)).run {} =
        (.ok (((records estate.text).filterMap
          (emptyOrUnlinked.cleaned (records estate.text))).map Record.written, trace), s')) ∧
      ((emptyOrUnlinked.toFilter.run {} (recordBlocks estate.text)).run {}).1.toOption.map (·.1) =
        some (["0 HEAD\n", "0 @I1@ INDI\n1 NAME Ada\n", "0 TRLR\n"].map String.toList) :=
  have hplain : ∀ l ∈ estate.lines, Line.isPlain l = true := by decide
  have hkeys : ((records estate.text).map Record.key).Nodup := by decide
  ⟨hplain, hkeys,
    run_toFilter emptyOrUnlinked {} estate estate.flatMap_recordBlocks hplain hkeys {},
    by decide +kernel⟩

end Cleaner
end Gedcom
