import Gedcom.Proofs.Leftovers
import Mathlib.Data.List.Find

/-!
# Pointers to records that are never defined

The filter drops a structure if it looks at the path of its first line (`looksAt`) and the
line points to a record to which some line refers and which no record is (`PointsNowhere`).

Where it looks is a matter of its rules and their order.  Most patterns match paths of one
length; those of them that hand over structures are listed in `listedTags`.  The patterns of
headers, families and individuals are open at the end: they match all lines of such a record
that no listed pattern matches, and since operations run on the outermost line only, they
hand over the structures of level 1 and those directly below a listed line (`looksAt_iff`).

`run_filter` reads what is left off the records, `run_spares` says what that means for the
lines that are left, and `run_noneDangling_iff` when no pointer to an unknown identifier is
among them.
-/
namespace Gedcom

/-- The place of the first element that satisfies a test, in a list without repetition. -/
theorem findIdx?_eq_map_idxOf {α : Type} [BEq α] [LawfulBEq α] {l : List α} (hl : l.Nodup)
    (p : α → Bool) : l.findIdx? p = (l.find? p).map fun a => l.idxOf a := by
  rw [List.find?_eq_bind_findIdx?_getElem?]
  cases hi : l.findIdx? p with
  | none => rfl
  | some i =>
    obtain ⟨hlt, _⟩ := List.findIdx?_eq_some_iff_getElem.mp hi
    rw [Option.bind_some, List.getElem?_eq_getElem hlt, Option.map_some, hl.idxOf_getElem]

namespace VoidPointers
variable {path : List String}

/-- The types of the records of which the filter looks at all structures of level 1. -/
def wholeTypes : List String := ["HEAD", "FAM", "INDI"]

/-- The patterns of the rules that hand over structures, in order. -/
def hookedPatterns : List String :=
  ["*:NOTE", "*:*:NOTE", "*:*:*:NOTE", "*:OBJE", "*:*:OBJE", "*:*:*:OBJE", "*:*:*:*:OBJE",
    "*:SOUR", "*:*:SOUR", "*:*:*:SOUR", "HEAD:*", "FAM:*:_ASSO", "FAM:*", "INDI:*:_ASSO",
    "INDI:*", "SOUR:REPO"]

/-- The rules of the filter, ready to run. -/
def readyRules : ReadyRules where
  rules := hookedPatterns.map (fun p => ⟨⟨p⟩, [.convert]⟩) ++ [⟨⟨"*"⟩, []⟩]

/-- The rules of the filter are valid, whatever the parameters are. -/
theorem compile_filter (ps : Params) : filter.compile ps = .ok readyRules :=
  (rfl)

/-- The filter that is being applied. -/
def application (ps : Params) : Application := ⟨filter, readyRules, ps⟩

/-- The tags of notes, media and sources at all depths at which the filter looks for them. -/
def commonTags : List (List String) :=
  [["*", "NOTE"], ["*", "*", "NOTE"], ["*", "*", "*", "NOTE"], ["*", "OBJE"], ["*", "*", "OBJE"],
    ["*", "*", "*", "OBJE"], ["*", "*", "*", "*", "OBJE"], ["*", "SOUR"], ["*", "*", "SOUR"],
    ["*", "*", "*", "SOUR"]]

/-- The tags of the patterns that hand over structures. -/
def hookedTags : List (List String) :=
  commonTags ++ [["HEAD", "*"], ["FAM", "*", "_ASSO"], ["FAM", "*"], ["INDI", "*", "_ASSO"],
    ["INDI", "*"], ["SOUR", "REPO"]]

/-- The tags of those that match paths of one length only. -/
def listedTags : List (List String) :=
  commonTags ++ [["FAM", "*", "_ASSO"], ["INDI", "*", "_ASSO"], ["SOUR", "REPO"]]

theorem map_tags_hookedPatterns : hookedPatterns.map (fun p => Pattern.tags ⟨p⟩) = hookedTags := by
  decide

theorem getLast?_listedTags : ∀ p ∈ listedTags, p ≠ [] ∧ p.getLast? ≠ some wildcard := by
  decide

/-- The tags of the pattern that decides on a path, if it is one that hands over structures. -/
def decider (path : List String) : Option (List String) :=
  hookedTags.find? fun p => matchTags p path

theorem find?_cons_ite {α : Type} (p : α → Bool) (a : α) (l : List α) :
    (a :: l).find? p = if p a then some a else l.find? p := by
  rw [List.find?_cons]
  cases p a <;> rfl

/-- A path is decided on by a listed pattern, or else by that of a record all of whose
structures are looked at. -/
theorem decider_cons {record : String} {path : List String} (hw : wildcard ∉ record :: path) :
    decider (record :: path) =
      (listedTags.find? fun p => tagsAgree p (record :: path)).or
        (if wholeTypes.contains record && path != [] then some [record, wildcard] else none) := by
  have hcommon : (commonTags.find? fun p => matchTags p (record :: path)) =
      commonTags.find? fun p => tagsAgree p (record :: path) := by
    refine List.find?_congr fun p hp => ?_
    obtain ⟨hne, hlast⟩ := getLast?_listedTags p (List.mem_append_left _ hp)
    exact matchTags_eq_tagsAgree hne hlast hw
  rw [decider, hookedTags, listedTags, List.find?_append, List.find?_append, hcommon,
    Option.or_assoc]
  congr 1
  simp only [List.mem_cons, wildcard, not_or] at hw
  rcases path with _ | ⟨tag, _ | ⟨tag', _ | ⟨_, _⟩⟩⟩
  · simp [matchTags, tagsAgree, wildcard, Ne.symm hw.1]
  · simp [find?_cons_ite, matchTags, tagsAgree, wholeTypes, wildcard]
    grind
  · simp [find?_cons_ite, matchTags, tagsAgree, wholeTypes, wildcard]
    grind
  · simp [find?_cons_ite, matchTags, tagsAgree, wholeTypes, wildcard]
    grind

theorem nodup_hookedTags : hookedTags.Nodup := by decide

/-- The position of the rule with some tags; that of the last rule, if none has them. -/
def rank (decider : Option (List String)) : Nat :=
  decider.elim hookedTags.length fun p => hookedTags.idxOf p

theorem mem_of_decider {p : List String} (h : decider path = some p) : p ∈ hookedTags :=
  List.mem_of_find?_eq_some h

/-- Different patterns stand at different positions. -/
theorem rank_decider_inj {path' : List String} :
    rank (decider path) = rank (decider path') ↔ decider path = decider path' := by
  refine ⟨fun h => ?_, congrArg rank⟩
  cases hp : decider path with
  | none =>
    cases hq : decider path' with
    | none => rfl
    | some q =>
      have hlt := List.idxOf_lt_length_of_mem (mem_of_decider hq)
      rw [hp, hq] at h
      exact absurd h.symm (Nat.ne_of_lt hlt)
  | some p =>
    cases hq : decider path' with
    | none =>
      have hlt := List.idxOf_lt_length_of_mem (mem_of_decider hp)
      rw [hp, hq] at h
      exact absurd h (Nat.ne_of_lt hlt)
    | some q =>
      rw [hp, hq] at h
      rw [(List.idxOf_inj (mem_of_decider hp)).mp h]

/-- The position of the rule that decides on a path. -/
theorem firstMatch_application (ps : Params) (hpath : path ≠ []) :
    firstMatch (application ps).rules.patterns path = some (rank (decider path)) := by
  have hkeeps : ∀ p ∈ (application ps).rules.patterns, p.excludes = false := by
    show ∀ p ∈ readyRules.patterns, p.excludes = false
    decide
  have hpatterns : (application ps).rules.patterns =
      hookedPatterns.map (fun p => ⟨p⟩) ++ [⟨"*"⟩] := rfl
  have hany : Pattern.admits ⟨"*"⟩ path = true := by
    have htags : Pattern.tags ⟨"*"⟩ = ["*"] := by decide
    rw [Pattern.admits, htags]
    exact matchTags_wildcard hpath
  have hhooked : (hookedPatterns.map (fun p => (⟨p⟩ : Pattern))).findIdx? (fun p => p.admits path) =
      (decider path).map fun p => hookedTags.idxOf p := by
    have htests : (fun p : String => Pattern.admits ⟨p⟩ path) =
        (fun p => matchTags p path) ∘ fun p : String => Pattern.tags ⟨p⟩ := rfl
    rw [decider, ← findIdx?_eq_map_idxOf nodup_hookedTags, ← map_tags_hookedPatterns,
      List.findIdx?_map, List.findIdx?_map, ← htests]
    rfl
  have hlast : [(⟨"*"⟩ : Pattern)].findIdx? (fun p => p.admits path) = some 0 := by
    rw [List.findIdx?_cons, hany, if_pos rfl]
  rw [firstMatch_eq_findIdx? hkeeps, hpatterns, List.findIdx?_append, hhooked, hlast]
  cases decider path with
  | some p => rfl
  | none => rfl

theorem decider_nil : decider [] = none := by decide

theorem acts_rank (ps : Params) : (application ps).acts (rank (decider path)) =
    (decider path).isSome := by
  have hhooked : ∀ p ∈ hookedTags, (application ps).acts (rank (some p)) = true := by
    show ∀ p ∈ hookedTags, (readyRules.rules[rank (some p)]?).any (!·.ops.isEmpty) = true
    decide
  have hlast : (application ps).acts (rank none) = false := rfl
  cases hp : decider path with
  | none => exact hlast
  | some p => exact hhooked p (mem_of_decider hp)

/-- The structures on a path are handed over if a pattern decides on it that hands over
structures, and not on the line above as well. -/
theorem due?_application (ps : Params) (hpath : path ≠ []) :
    ((application ps).due? path).isSome = true ↔
      (decider path).isSome = true ∧ decider path.dropLast ≠ decider path := by
  have habove : (decider path).isSome = true →
      (firstMatch (application ps).rules.patterns path.dropLast ≠ some (rank (decider path)) ↔
        decider path.dropLast ≠ decider path) := by
    intro hsome
    by_cases hroot : path.dropLast = []
    · rw [hroot, firstMatch_nil, decider_nil]
      refine ⟨fun _ hnone => ?_, fun _ h => nomatch h⟩
      rw [← hnone] at hsome
      cases hsome
    · rw [firstMatch_application ps hroot, Ne, Option.some.injEq, rank_decider_inj]
  rw [Application.due?, firstMatch_application ps hpath]
  dsimp only
  rw [acts_rank]
  split
  · rename_i hdue
    exact iff_of_true rfl ⟨hdue.2, (habove hdue.2).mp hdue.1⟩
  · rename_i hidle
    refine iff_of_false Bool.false_ne_true fun h => hidle ⟨(habove h.1).mpr h.2, h.1⟩

/-- Whether a listed pattern matches a path. -/
def isListed (path : List String) : Bool := listedTags.any fun p => tagsAgree p path

/-- Whether the filter looks at the lines on a path: those that are listed and, of some
records, all of level 1 and all directly below a listed line. -/
def looksAt : (path : List String) → Bool
  | [] => false
  | record :: path =>
    isListed (record :: path) ||
      wholeTypes.contains record && path != [] &&
        (path.length == 1 || isListed (record :: path.dropLast))

theorem decider_of_listed (hwildcard : wildcard ∉ path) (hlisted : isListed path = true) :
    ∃ p ∈ listedTags, decider path = some p := by
  rw [isListed, ← List.isSome_find?] at hlisted
  obtain ⟨p, hp⟩ := Option.isSome_iff_exists.mp hlisted
  cases path with
  | nil =>
    have hagree : tagsAgree p [] = true := List.find?_some (p := fun p => tagsAgree p []) hp
    have hempty := List.length_eq_zero_iff.mp (length_eq_of_tagsAgree hagree)
    exact absurd hempty (getLast?_listedTags p (List.mem_of_find?_eq_some hp)).1
  | cons record path =>
    refine ⟨p, List.mem_of_find?_eq_some hp, ?_⟩
    rw [decider_cons hwildcard, hp, Option.some_or]

theorem decider_of_not_listed {record : String} (hwildcard : wildcard ∉ record :: path)
    (hlisted : isListed (record :: path) = false) :
    decider (record :: path) =
      if wholeTypes.contains record && path != [] then some [record, wildcard] else none := by
  rw [isListed, ← List.isSome_find?, Option.isSome_eq_false_iff,
    Option.isNone_iff_eq_none] at hlisted
  rw [decider_cons hwildcard, hlisted, Option.none_or]

/-- A listed pattern does not decide on the line above as well. -/
theorem decider_ne_of_listed {p : List String} (hwildcard : wildcard ∉ path) (hpath : path ≠ [])
    (hp : p ∈ listedTags) (hdecides : decider path = some p) :
    decider path.dropLast ≠ some p := by
  intro habove
  obtain ⟨_, hlast⟩ := getLast?_listedTags p hp
  have hmatch : matchTags p path = true := List.find?_some (p := fun p => matchTags p path) hdecides
  have hmatch' : matchTags p path.dropLast = true :=
    List.find?_some (p := fun p => matchTags p path.dropLast) habove
  have hlength := length_eq_of_matchTags hmatch hlast hwildcard
  have hlength' := length_eq_of_matchTags hmatch' hlast
    fun hmem => hwildcard ((List.dropLast_sublist path).subset hmem)
  rw [List.length_dropLast] at hlength'
  have := List.length_pos_of_ne_nil hpath
  omega

/-- Below level 1 the pattern of a whole record decides anew only below a listed line. -/
theorem decider_dropLast_ne_iff {record : String} (hwildcard : wildcard ∉ record :: path)
    (hpath : path ≠ []) (hrecord : wholeTypes.contains record = true) :
    decider (record :: path).dropLast ≠ some [record, wildcard] ↔
      path.length = 1 ∨ isListed (record :: path.dropLast) = true := by
  have hwildcard' : wildcard ∉ record :: path.dropLast := by
    intro hmem
    rcases List.mem_cons.mp hmem with h | h
    · exact hwildcard (List.mem_cons.mpr (.inl h))
    · exact hwildcard (List.mem_cons_of_mem _ ((List.dropLast_sublist path).subset h))
  rw [List.dropLast_cons_of_ne_nil hpath]
  cases hlisted : isListed (record :: path.dropLast) with
  | true =>
    obtain ⟨p, hp, hdecides⟩ := decider_of_listed hwildcard' hlisted
    obtain ⟨_, hlast⟩ := getLast?_listedTags p hp
    refine iff_of_true (fun hsame => hlast ?_) (.inr rfl)
    obtain rfl := Option.some.inj (hdecides.symm.trans hsame)
    rfl
  | false =>
    have hshort : path.length = 1 ↔ path.dropLast = [] := by
      have := List.length_pos_of_ne_nil hpath
      rw [← List.length_eq_zero_iff, List.length_dropLast]
      omega
    rw [decider_of_not_listed hwildcard' hlisted, hrecord, Bool.true_and, hshort]
    by_cases hroot : path.dropLast = []
    · simp [hroot]
    · simp [hroot]

/-- **The structures that are handed over** are those at which the filter looks. -/
theorem looksAt_iff (hwildcard : wildcard ∉ path) :
    looksAt path = true ↔ (decider path).isSome = true ∧ decider path.dropLast ≠ decider path := by
  cases path with
  | nil => exact iff_of_false Bool.false_ne_true fun h => h.2 rfl
  | cons record path =>
    rw [looksAt]
    cases hlisted : isListed (record :: path) with
    | true =>
      obtain ⟨p, hp, hdecides⟩ := decider_of_listed hwildcard hlisted
      rw [hdecides]
      exact iff_of_true (Bool.true_or _)
        ⟨rfl, decider_ne_of_listed hwildcard (List.cons_ne_nil _ _) hp hdecides⟩
    | false =>
      rw [decider_of_not_listed hwildcard hlisted, Bool.false_or]
      by_cases hwhole : (wholeTypes.contains record && path != []) = true
      · obtain ⟨hrecord, hpath⟩ := Bool.and_eq_true_iff.mp hwhole
        rw [if_pos hwhole, hwhole, Bool.true_and, Bool.or_eq_true, beq_iff_eq,
          decider_dropLast_ne_iff hwildcard (bne_iff_ne.mp hpath) hrecord]
        exact (and_iff_right rfl).symm
      · rw [if_neg hwhole, Bool.and_eq_true]
        exact iff_of_false (fun h => hwhole h.1) fun h => nomatch h.1

/-- Operations are due exactly on the paths at which the filter looks. -/
theorem due?_isSome (ps : Params) (hpath : path ≠ []) (hwildcard : wildcard ∉ path) :
    ((application ps).due? path).isSome = looksAt path := by
  rw [Bool.eq_iff_iff, due?_application ps hpath, looksAt_iff hwildcard]

/-- The filter does not look at the lines of the records themselves. -/
theorem looksAt_singleton (record : String) : looksAt [record] = false := by
  have hlong : ∀ p ∈ listedTags, p.length ≠ 1 := by decide
  have hlisted : isListed [record] = false := by
    refine List.any_eq_false.mpr fun p hp hagree => ?_
    exact hlong p hp (length_eq_of_tagsAgree hagree)
  rw [looksAt, hlisted, bne_self_eq_false, Bool.and_false, Bool.false_and, Bool.false_or]

/-! ## What the hook does -/

variable {rs : List Record} {g : Graph} {r q : Record} {l t : Text}

/-- A line points to a record to which some line refers and which no record is. -/
def PointsNowhere (rs : List Record) (l : Text) : Prop :=
  ∃ x ∈ Line.target? l, (∃ r ∈ rs, x ∈ r.references) ∧ ∀ r ∈ rs, r.key ≠ x

instance : DecidablePred (PointsNowhere rs) := fun l =>
  inferInstanceAs (Decidable
    (∃ x ∈ Line.target? l, (∃ r ∈ rs, x ∈ r.references) ∧ ∀ r ∈ rs, r.key ≠ x))

/-- Whether the filter drops the structures on a path with a first line. -/
def drops (rs : List Record) (path : List String) (l : Text) : Bool :=
  looksAt path && decide (PointsNowhere rs l)

/-- A record without the structures that the filter drops. -/
def trimmed (rs : List Record) (r : Record) : Record :=
  { r with below := r.below.without (drops rs) [r.tag] }

/-- The pruned graph knows a record of no type under a key if some line refers to the key and
no record has it. -/
theorem any_isNone_of_shows (h : g.Shows rs) (x : String) :
    ((g.prunePass.find? x).any fun n => n.type.isNone) = true ↔
      (∃ r ∈ rs, x ∈ r.references) ∧ ∀ r ∈ rs, r.key ≠ x := by
  rw [Graph.find?_prunePass]
  by_cases hmentions : Graph.Mentions (rs.map Record.definition) x
  · rw [h.find?_of_met hmentions, Option.any_some]
    have htype : (Graph.summary (rs.map Record.definition) x).type.isNone = true ↔
        ∀ r ∈ rs, r.key ≠ x := by
      simp [Graph.summary, Record.definition]
    rw [htype, iff_and_self]
    intro hundefined
    obtain ⟨d, hd, hx⟩ := hmentions
    obtain ⟨r, hr, rfl⟩ := List.mem_map.mp hd
    rcases hx with hkey | hreference
    · exact absurd hkey (hundefined r hr)
    · exact ⟨r, hr, hreference⟩
  · rw [h.find?_of_not_met hmentions, Option.any_none]
    refine iff_of_false Bool.false_ne_true ?_
    rintro ⟨⟨r, hr, hreference⟩, _⟩
    exact hmentions ⟨r.definition, List.mem_map_of_mem hr, .inr hreference⟩

/-- A structure is dropped if its first line points to a record that is never defined. -/
theorem hook_eq (h : g.Shows rs) {level : Nat} (hl : Line.isLegible level l = true)
    (pattern : String) (t : Text) (ps : Params) :
    hook pattern (l ++ '\n' :: t) ps g.prunePass =
      .ok (if PointsNowhere rs l then [] else l ++ '\n' :: t, g.prunePass) := by
  obtain ⟨line, hline, _⟩ := Line.exists_of_isLegible hl
  have hpointer : (line.pointer?.any fun x => (g.prunePass.find? x).any (·.type.isNone)) = true ↔
      PointsNowhere rs l := by
    rw [PointsNowhere, Line.target?, hline, Option.bind_some, Option.any_eq_true]
    exact exists_congr fun x => and_congr_right fun _ => any_isNone_of_shows h x
  rw [hook, Text.firstLine_append_newline (Line.newline_notMem_of_isLegible hl), hline]
  dsimp only
  by_cases hnowhere : PointsNowhere rs l
  · rw [if_pos (hpointer.mpr hnowhere), if_pos hnowhere]
  · rw [if_neg (mt hpointer.mp hnowhere), if_neg hnowhere]

/-- Rules with operations hand over structures and do nothing else. -/
theorem ops_of_acts (ps : Params) {i : Nat} (hacts : (application ps).acts i = true) :
    ∃ rule, (application ps).rules.rules[i]? = some rule ∧ rule.ops = [.convert] := by
  have hops : ∀ rule ∈ readyRules.rules, rule.ops.isEmpty = true ∨ rule.ops = [.convert] := by
    intro rule hrule
    rcases List.mem_append.mp hrule with hrule | hrule
    · obtain ⟨p, _, rfl⟩ := List.mem_map.mp hrule
      exact .inr rfl
    · obtain rfl := List.mem_singleton.mp hrule
      exact .inl rfl
  obtain ⟨rule, hrule, hnonempty⟩ := (Option.any_eq_true _ _).mp hacts
  refine ⟨rule, hrule, (hops rule (List.mem_of_getElem? hrule)).resolve_left ?_⟩
  simpa using hnonempty

/-- **Below the lines of the records the filter drops structures by their path and first
line.** -/
theorem dropsAt (ps : Params) (h : g.Shows rs) :
    (application ps).DropsAt g.prunePass (drops rs) := by
  intro level path l t _ hl _ hwildcard
  have hne : path ++ [Line.tagOf l] ≠ [] := by simp
  have hdue := due?_isSome ps hne hwildcard
  cases hlooks : looksAt (path ++ [Line.tagOf l]) with
  | false =>
    rw [hlooks, Option.isSome_eq_false_iff, Option.isNone_iff_eq_none] at hdue
    have hfinish := Application.yields_finish_of_due?_eq_none (g := g.prunePass)
      (t := l ++ '\n' :: t) hdue
    rw [List.dropLast_concat] at hfinish
    rwa [drops, hlooks, Bool.false_and, if_neg Bool.false_ne_true]
  | true =>
    rw [hlooks] at hdue
    obtain ⟨⟨_, i⟩, hsome⟩ := Option.isSome_iff_exists.mp hdue
    obtain ⟨rfl, _, _, hacts⟩ := ((application ps).due?_eq_some).mp hsome
    obtain ⟨rule, hrule, hops⟩ := ops_of_acts ps hacts
    have hconvert := Application.yields_convert (a := application ps) rfl
      (hook_eq h hl rule.pattern.text t ps)
    have hfinish := Application.yields_finish_of_due? hsome hrule
      (by rw [hops]; exact hconvert.bind (Yields.pure _))
    rw [List.dropLast_concat] at hfinish
    simpa only [drops, hlooks, Bool.true_and, decide_eq_true_eq] using hfinish

theorem keepsLines (ps : Params) : (application ps).KeepsLines := by
  intro path hpath
  rw [firstMatch_application ps hpath]
  rfl

/-- What is left of a record is the record without the structures that are dropped. -/
theorem yields_recordRemnant (ps : Params) (h : g.Shows rs) (hlegible : r.isLegible = true) :
    Yields g.prunePass ((application ps).recordRemnant r) (trimmed rs r).written := by
  obtain ⟨hhead, hbelow⟩ := Bool.and_eq_true_iff.mp hlegible
  have hwildcard : wildcard ∉ [r.tag] := by
    rw [List.mem_singleton]
    exact (Line.tagOf_ne_wildcard hhead).symm
  have hkeeps := keepsLines ps
  have hinner := hkeeps.yields_outlineRemnant (dropsAt ps h) Nat.one_pos hbelow
    (List.cons_ne_nil r.tag []) hwildcard
  have hdue := due?_isSome ps (List.cons_ne_nil r.tag []) hwildcard
  rw [looksAt_singleton, Option.isSome_eq_false_iff, Option.isNone_iff_eq_none] at hdue
  have hfinish := Application.yields_finish_of_due?_eq_none (g := g.prunePass)
    (t := (trimmed rs r).written) hdue
  have htext : r.head ++ '\n' :: (r.below.without (drops rs) [r.tag]).written =
      (trimmed rs r).written := (Record.written_eq (trimmed rs r)).symm
  have hroot : firstMatch (application ps).rules.patterns [] = none := firstMatch_nil _
  rw [← htext] at hfinish ⊢
  rw [Application.recordRemnant, ← hroot]
  apply hkeeps.yields_entryRemnant
  · exact hinner
  · exact hfinish

/-! ## Transmissions -/

/-- **What the filter leaves** are the records without the structures that it drops. -/
theorem run_filter (ps : Params) {ts : List Text} (hts : Delivers ts rs) (s : Run) :
    ∃ trace s', (filter.run ps ts).run s =
      (.ok ((rs.map (trimmed rs)).map Record.written, trace), s') := by
  have hyields : ∀ r ∈ rs, Yields (Graph.ofTexts ts).prunePass
      ((application ps).recordRemnant r) (((some (trimmed rs r)).map Record.written).getD []) :=
    fun r hr => yields_recordRemnant ps hts.shows (hts.legible r hr)
  obtain ⟨trace, s', hrun⟩ :=
    Application.run_of_delivers hts (Application.references_eq rfl ts) hyields s
  refine ⟨trace, s', ?_⟩
  rw [Filter.run_of_compile (compile_filter ps)]
  rw [Cleaner.filter_map_written (fun r => some (trimmed rs r)), List.filterMap_eq_map'] at hrun
  exact hrun

/-- What is left are records again. -/
theorem delivers_trimmed (hlegible : ∀ r ∈ rs, r.isLegible = true) :
    Delivers ((rs.map (trimmed rs)).map Record.written) (rs.map (trimmed rs)) := by
  apply delivers_written
  intro q hq
  obtain ⟨r, hr, rfl⟩ := List.mem_map.mp hq
  obtain ⟨hhead, hbelow⟩ := Bool.and_eq_true_iff.mp (hlegible r hr)
  exact Bool.and_eq_true_iff.mpr ⟨hhead, Outline.isLegible_without hbelow⟩

/-- What is left of a record: its line, and what stands below it but for some structures, each
of which begins with a line that points to a record that is never defined. -/
structure Spares (rs : List Record) (r q : Record) : Prop where
  head : q.head = r.head
  /-- Whole structures are missing, and each begins with such a line. -/
  cut : Outline.Cut (PointsNowhere rs) r.below q.below
  /-- Lines are left as they are, in their order and below the same lines. -/
  order : q.below.trails.Sublist r.below.trails
  /-- No line is missing unless it or a line above it is such a line. -/
  rest : (r.below.trails.filter fun ls => ∀ l ∈ ls, ¬PointsNowhere rs l).Sublist q.below.trails

theorem spares_trimmed (rs : List Record) (r : Record) : Spares rs r (trimmed rs r) := by
  have hdrops : ∀ path l, drops rs path l = true → PointsNowhere rs l := by
    intro path l h
    exact of_decide_eq_true (Bool.and_eq_true_iff.mp h).2
  have hcut := Outline.cut_without hdrops [r.tag] r.below
  exact ⟨rfl, hcut, hcut.trails_sublist, hcut.filter_trails_sublist⟩

/-- **Nothing but pointers to records that are never defined is dropped.**  The records stay
in their order, and each keeps its line and all structures but some that begin with such a
pointer. -/
theorem run_spares (ps : Params) (d : Transmission) {ts : List Text}
    (hts : ts.flatMap recordBlocks = recordBlocks d.text) (s : Run) :
    ∃ qs trace s', (filter.run ps ts).run s = (.ok (qs.map Record.written, trace), s') ∧
      Delivers (qs.map Record.written) qs ∧
      List.Forall₂ (Spares (records d.text)) (records d.text) qs := by
  have hdelivers := d.delivers hts
  obtain ⟨trace, s', hrun⟩ := run_filter ps hdelivers s
  refine ⟨_, trace, s', hrun, delivers_trimmed hdelivers.legible, ?_⟩
  rw [List.forall₂_map_right_iff, List.forall₂_same]
  exact fun r _ => spares_trimmed (records d.text) r

/-- An individual that points to a family that is a record, and to one that is not. -/
def foundling : Transmission where
  lines := ["0 @I1@ INDI", "1 FAMS @F1@", "1 FAMC @F404@", "2 PEDI birth", "0 @F1@ FAM",
    "1 HUSB @I1@"].map String.toList
  stepwise := by decide

/-- The pointer to the family that is none is dropped with the line below it. -/
theorem run_spares_foundling :
    (∃ qs trace s', (filter.run {} (recordBlocks foundling.text)).run {} =
        (.ok (qs.map Record.written, trace), s') ∧
      Delivers (qs.map Record.written) qs ∧
      List.Forall₂ (Spares (records foundling.text)) (records foundling.text) qs) ∧
      ((filter.run {} (recordBlocks foundling.text)).run {}).1.toOption.map (·.1) =
        some (["0 @I1@ INDI\n1 FAMS @F1@\n", "0 @F1@ FAM\n1 HUSB @I1@\n"].map String.toList) :=
  ⟨run_spares {} foundling foundling.flatMap_recordBlocks {}, by decide +kernel⟩

/-! ## Pointers that are left -/

/-- No record has an identifier. -/
def Unknown (rs : List Record) (x : String) : Prop := ∀ r ∈ rs, r.xref? ≠ some x

instance (rs : List Record) (x : String) : Decidable (Unknown rs x) :=
  inferInstanceAs (Decidable (∀ r ∈ rs, r.xref? ≠ some x))

/-- The types of the records of individuals and families. -/
def familyTypes : List String := ["INDI", "FAM"]

/-- No line below the lines of individuals and families points to an unknown identifier. -/
def NoneDangling (rs qs : List Record) : Prop :=
  ∀ q ∈ qs, q.tag ∈ familyTypes → ∀ l ∈ q.below.lines, ∀ x ∈ Line.target? l, ¬Unknown rs x

instance (rs qs : List Record) : Decidable (NoneDangling rs qs) :=
  inferInstanceAs (Decidable (∀ q ∈ qs, q.tag ∈ familyTypes → ∀ l ∈ q.below.lines,
    ∀ x ∈ Line.target? l, ¬Unknown rs x))

/-- Why the filter does not drop a structure on a path, although its first line points to an
unknown identifier. -/
inductive Missed (rs : List Record) (path : List String) (x : String) : Prop
  /-- The line stands where the filter does not look. -/
  | overlooked (hpath : looksAt path = false)
  /-- No line counts as a reference to the identifier: this one has an identifier itself, or no
  blank in front of its value. -/
  | unread (hreferences : ∀ r ∈ rs, x ∉ r.references)
  /-- A record without an identifier is known by its tag, and the tag is the identifier. -/
  | namesake {r : Record} (hr : r ∈ rs) (hxref : r.xref? = none) (htag : r.tag = x)

/-- **Which pointers to an unknown identifier are missed.**  A structure that begins with such a
line is not dropped exactly for one of three reasons. -/
theorem drops_eq_false_iff {x : String} (htarget : x ∈ Line.target? l)
    (hunknown : Unknown rs x) : drops rs path l = false ↔ Missed rs path x := by
  constructor
  · intro hdrops
    rcases Bool.and_eq_false_iff.mp hdrops with hlooks | hsomewhere
    · exact .overlooked hlooks
    · by_cases hreferences : ∃ r ∈ rs, x ∈ r.references
      · have hkey : ∃ r ∈ rs, r.key = x := by
          by_contra hno
          refine of_decide_eq_false hsomewhere ⟨x, htarget, hreferences, fun r hr hrx => ?_⟩
          exact hno ⟨r, hr, hrx⟩
        obtain ⟨s, hs, hkey⟩ := hkey
        -- a record with the key that has no such identifier has none
        cases hxref : s.xref? with
        | none =>
          rw [Record.key, hxref] at hkey
          exact .namesake hs hxref hkey
        | some y =>
          rw [Cleaner.key_of_xref? hxref] at hkey
          exact absurd (hkey ▸ hxref) (hunknown s hs)
      · exact .unread fun r hr hx => hreferences ⟨r, hr, hx⟩
  · intro hmissed
    by_contra hdrop
    obtain ⟨hlooks, hnowhere⟩ := Bool.and_eq_true_iff.mp (Bool.eq_true_of_not_eq_false hdrop)
    obtain ⟨y, hy, ⟨q, hq, hreference⟩, hundefined⟩ := of_decide_eq_true hnowhere
    obtain rfl : y = x := Option.mem_unique hy htarget
    cases hmissed with
    | overlooked hpath =>
      rw [hlooks] at hpath
      cases hpath
    | unread hreferences => exact hreferences q hq hreference
    | @namesake r hr hxref htag =>
      refine hundefined r hr ?_
      rw [Record.key, hxref]
      exact htag

/-- In individuals and families, the lines that point to an unknown identifier and were missed
stand below structures that are dropped, and are cut out with them. -/
def NoneMissed (rs : List Record) : Prop :=
  ∀ r ∈ rs, r.tag ∈ familyTypes → ∀ ls ∈ r.below.trails, ∀ l ∈ ls.getLast?,
    ∀ x ∈ Line.target? l, Unknown rs x → Missed rs ([r.tag] ++ ls.map Line.tagOf) x →
      Outline.cutsOut (drops rs) [r.tag] ls = true

theorem noneDangling_iff (rs : List Record) :
    NoneDangling rs (rs.map (trimmed rs)) ↔ NoneMissed rs := by
  have hleft : ∀ r l, l ∈ (trimmed rs r).below.lines ↔
      ∃ ls ∈ r.below.trails, Outline.cutsOut (drops rs) [r.tag] ls = false ∧
        ls.getLast? = some l := by
    intro r l
    rw [trimmed, ← Outline.filterMap_getLast?_trails, Outline.trails_without, List.mem_filterMap]
    simp only [List.mem_filter, Bool.not_eq_true', and_assoc]
  constructor
  · intro hnone r hr htag ls hls l hl x htarget hunknown _
    by_contra hcut
    have hmem := (hleft r l).mpr ⟨ls, hls, Bool.eq_false_iff.mpr hcut, hl⟩
    exact hnone _ (List.mem_map_of_mem hr) htag l hmem x htarget hunknown
  · intro hnone q hq htag l hl x htarget hunknown
    obtain ⟨r, hr, rfl⟩ := List.mem_map.mp hq
    obtain ⟨ls, hls, hstays, hlast⟩ := (hleft r l).mp hl
    have hdrops : drops rs ([r.tag] ++ ls.map Line.tagOf) l = false := by
      by_contra hdrop
      rw [Outline.cutsOut_of_drops hlast (Bool.eq_true_of_not_eq_false hdrop)] at hstays
      cases hstays
    have hmissed := (drops_eq_false_iff htarget hunknown).mp hdrops
    rw [hnone r hr htag ls hls l hlast x htarget hunknown hmissed] at hstays
    cases hstays

/-- **When no pointer to an unknown identifier is left** in an individual or a family: exactly
if those that were missed stand below structures that are dropped. -/
theorem run_noneDangling_iff (ps : Params) (d : Transmission) {ts : List Text}
    (hts : ts.flatMap recordBlocks = recordBlocks d.text) (s : Run) :
    ∃ qs trace s', (filter.run ps ts).run s = (.ok (qs.map Record.written, trace), s') ∧
      Delivers (qs.map Record.written) qs ∧
      (NoneDangling (records d.text) qs ↔ NoneMissed (records d.text)) := by
  have hdelivers := d.delivers hts
  obtain ⟨trace, s', hrun⟩ := run_filter ps hdelivers s
  exact ⟨_, trace, s', hrun, delivers_trimmed hdelivers.legible,
    noneDangling_iff (records d.text)⟩

/-- Of the foundling no pointer to an unknown identifier is left. -/
theorem run_noneDangling_iff_foundling :
    NoneMissed (records foundling.text) ∧
      ∃ qs trace s', (filter.run {} (recordBlocks foundling.text)).run {} =
          (.ok (qs.map Record.written, trace), s') ∧
        Delivers (qs.map Record.written) qs ∧ NoneDangling (records foundling.text) qs := by
  have hcut : ∀ r ∈ records foundling.text, ∀ ls ∈ r.below.trails, ∀ l ∈ ls.getLast?,
      ∀ x ∈ Line.target? l, Unknown (records foundling.text) x →
        Outline.cutsOut (drops (records foundling.text)) [r.tag] ls = true := by decide +kernel
  have hnone : NoneMissed (records foundling.text) :=
    fun r hr _ ls hls l hl x htarget hunknown _ => hcut r hr ls hls l hl x htarget hunknown
  obtain ⟨qs, trace, s', hrun, hdelivers, hiff⟩ :=
    run_noneDangling_iff {} foundling foundling.flatMap_recordBlocks {}
  exact ⟨hnone, qs, trace, s', hrun, hdelivers, hiff.mpr hnone⟩

/-- An individual whose birth names a family that is no record. -/
def adoptee : Transmission where
  lines := ["0 @I1@ INDI", "1 BIRT", "2 FAMC @F9@"].map String.toList
  stepwise := by decide

/-- The rule for individuals decides on the birth and on the line below it, and is not carried
out there, so that the pointer is left. -/
theorem not_noneDangling_adoptee :
    ((filter.run {} (recordBlocks adoptee.text)).run {}).1.toOption.map (·.1) =
        some [adoptee.text] ∧
      ¬NoneDangling (records adoptee.text) (records adoptee.text) := by
  refine ⟨?_, ?_⟩ <;> decide +kernel

end VoidPointers
end Gedcom
