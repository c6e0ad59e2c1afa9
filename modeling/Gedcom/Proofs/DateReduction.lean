import Gedcom.Filter.Catalog
import Gedcom.Proofs.DateSearch
import Gedcom.Proofs.LineRewriting
import Gedcom.Proofs.Substitutions

/-!
# Dates reduced to years

Four rules shorten dates: they decide on the lines with the tag `DATE` on the levels one to four
that no exception in front of them matches.  Their substitution runs over the text of the whole
structure, and shortens every line of it (`Dates.shorten`), not only the date itself.  Where a
structure with a shortened date stands in another one with a shortened date, this happens more
than once to a line, but shortening is idempotent.

So the lines that are shortened are those below which, or on which, such a rule decides
(`Dates.reduced`).  `run_reduceDates` says that nothing else happens, and that doing it again
does nothing.
-/
namespace Gedcom

/-- The rule of a rule set that decides on a path. -/
def RuleSet.deciding (s : RuleSet) (path : List String) : Option Rule :=
  (firstMatch (s.patterns.map Pattern.mk) path).bind (s.rules[·]?)

/-- A path that agrees with tags ends as they do. -/
theorem getLast?_of_tagsAgree {pattern path : List String} {tag : String}
    (h : tagsAgree pattern path = true) (hlast : pattern.getLast? = some tag)
    (htag : tag ≠ wildcard) : path.getLast? = some tag := by
  fun_induction tagsAgree pattern path with
  | case1 => cases hlast
  | case2 p ps t ts ih =>
    obtain ⟨hfirst, hrest⟩ := Bool.and_eq_true_iff.mp h
    cases ps with
    | nil =>
      have hp : p = tag := Option.some.inj hlast
      subst hp
      obtain rfl := List.length_eq_zero_iff.mp (length_eq_of_tagsAgree hrest).symm
      rw [beq_false_of_ne htag, Bool.false_or, beq_iff_eq] at hfirst
      exact congrArg some hfirst.symm
    | cons q ps =>
      rw [List.getLast?_cons_cons] at hlast
      have hts := ih hrest hlast
      have hne : ts ≠ [] := by
        rintro rfl
        cases hts
      rwa [List.getLast?_cons_of_ne_nil hne]
  | case3 => cases h

namespace Dates

open Catalog (reduceDates)

/-! ## The rules -/

/-- The substitution that shortens dates. -/
def reduction : Substitution := ⟨"([\\d]) DATE " ++ Catalog.dateParts, "$1 DATE $2$3$4$5$6"⟩

theorem seeks_reduction : reduction.Seeks pattern where
  parses := pattern_eq
  fits := room_pattern
  groupable := by decide
  refers := by decide +kernel
  plain := by decide

/-- Whether a rule shortens dates. -/
def Shortens (r : Rule) : Prop := r.ops = [.useMacro "DateToYear"]

instance (r : Rule) : Decidable (Shortens r) :=
  inferInstanceAs (Decidable (r.ops = [.useMacro "DateToYear"]))

/-- The rules of the filter do nothing, or they shorten dates: those with the tag of dates at
the end of their patterns. -/
theorem ops_of_mem_rules : ∀ r ∈ (reduceDates.rules {}).rules,
    (Pattern.mk r.pattern).excludes = false ∧
      (r.ops = [] ∨ Shortens r ∧ (Pattern.mk r.pattern).tags.getLast? = some "DATE") := by
  decide

theorem not_shortens {r : Rule} (hops : r.ops = []) : ¬Shortens r := by
  rw [Shortens, hops]
  exact (List.cons_ne_nil _ _).symm

/-- A rule of the filter, ready to run. -/
def readyRule (r : Rule) : ReadyRule :=
  ⟨⟨r.pattern⟩, if Shortens r then [reduction.ready pattern] else []⟩

/-- The rules of the filter, ready to run. -/
def readyRules : ReadyRules := ⟨(reduceDates.rules {}).rules.map readyRule⟩

theorem macroProblem?_reduceDates : macroProblem? reduceDates.macros = none := by
  have hentries : reduceDates.macros.entries = [("DateToYear", [reduction])] := rfl
  have hnone : [reduction].findSome? Substitution.problem? = none := by
    rw [List.findSome?_singleton, seeks_reduction.problem?]
  rw [macroProblem?, hentries, List.findSome?_singleton]
  dsimp only
  rw [hnone, Option.map_none]

theorem validate_reduceDates (ps : Params) : reduceDates.validate ps = .ok () := by
  have hrules : RuleSet.ruleFault? reduceDates.name reduceDates.macros false []
      (reduceDates.rules ps).rules = none :=
    (by decide : RuleSet.ruleFault? reduceDates.name reduceDates.macros false []
      (reduceDates.rules {}).rules = none)
  have hsome : (reduceDates.rules ps).isEmpty = false := rfl
  exact RuleSet.validate_eq_ok hsome macroProblem?_reduceDates hrules

/-- The rules of the filter can be made ready, whatever the parameters are. -/
theorem compile_reduceDates (ps : Params) : reduceDates.compile ps = .ok readyRules := by
  have hvalid := validate_reduceDates ps
  have hmacro : RuleSet.writtenOut reduceDates.macros (.useMacro "DateToYear") =
      [.substitute reduction] := rfl
  have hbecomes : ∀ r ∈ (reduceDates.rules {}).rules,
      Rule.Becomes ps { r with ops := r.ops.flatMap (RuleSet.writtenOut reduceDates.macros) }
        (readyRule r) := by
    intro r hr
    refine ⟨rfl, ?_⟩
    rw [readyRule]
    dsimp only
    rcases (ops_of_mem_rules r hr).2 with hops | ⟨hops, _⟩
    · rw [if_neg (not_shortens hops), hops]
      exact .nil
    · have hwritten : r.ops.flatMap (RuleSet.writtenOut reduceDates.macros) =
          [.substitute reduction] := by
        rw [show r.ops = _ from hops, List.flatMap_singleton, hmacro]
      rw [if_pos hops, hwritten]
      exact .cons (seeks_reduction.becomes ps) .nil
  refine RuleSet.compile_eq_ok.mpr ⟨hvalid, RuleSet.unknownMacro?_of_validate hvalid, ?_⟩
  have hsame : reduceDates.rules ps = reduceDates.rules {} := rfl
  rw [hsame, RuleSet.flatMapOps, readyRules, List.forall₂_map_left_iff, List.forall₂_map_right_iff]
  exact List.forall₂_same.mpr hbecomes

/-- The filter that is being applied. -/
def application (ps : Params) : Application := ⟨reduceDates, readyRules, ps⟩

/-- The rules of the filter exclude nothing, and one of them decides on every path. -/
theorem decisive (ps : Params) : (application ps).Decisive where
  keeps q hq := by
    obtain ⟨r, hr, rfl⟩ := List.mem_map.mp hq
    exact (ops_of_mem_rules r hr).1
  decides path hpath := by
    have hmem : (⟨"*", []⟩ : Rule) ∈ (reduceDates.rules {}).rules := by decide
    have hany : Pattern.tags ⟨"*"⟩ = ["*"] := by decide
    refine ⟨readyRule ⟨"*", []⟩, List.mem_map_of_mem hmem, ?_⟩
    rw [readyRule, Pattern.admits, hany]
    exact matchTags_wildcard hpath
  closed q hq hops := by
    obtain ⟨r, hr, rfl⟩ := List.mem_map.mp hq
    rcases (ops_of_mem_rules r hr).2 with hidle | ⟨_, hlast⟩
    · exact absurd (if_neg (not_shortens hidle)) hops
    · rw [readyRule, hlast]
      decide

theorem ruleAt_application (ps : Params) (path : List String) :
    (application ps).ruleAt path = ((reduceDates.rules {}).deciding path).map readyRule := by
  have hpatterns : readyRules.patterns = (reduceDates.rules {}).patterns.map Pattern.mk := by
    rw [ReadyRules.patterns, readyRules, RuleSet.patterns, List.map_map, List.map_map]
    rfl
  have hrule : ∀ i : Nat, readyRules.rules[i]? =
      ((reduceDates.rules {}).rules[i]?).map readyRule := fun i => List.getElem?_map
  rw [(decisive ps).ruleAt_eq, RuleSet.deciding, Option.map_bind, ← hpatterns]
  exact congrArg _ (funext hrule)

/-! ## Lines that are shortened -/

/-- Whether the rule that decides on a path shortens dates. -/
def shortensAt (path : List String) : Bool :=
  ((reduceDates.rules {}).deciding path).any fun r => decide (Shortens r)

/-- A line is shortened if a rule that shortens dates decides on its path or on one above. -/
def reducedLine : List String → Text → Text := Outline.change shortensAt shorten

/-- A record with its dates shortened. -/
def reduced (r : Record) : Record := r.reworded reducedLine

theorem keepsHeadings_reducedLine : KeepsHeadings reducedLine where
  heading path l := by
    rw [reducedLine, Outline.change]
    split
    · exact heading?_shorten l
    · rfl
  newline path l hl := by
    rw [reducedLine, Outline.change]
    split
    · exact fun hmem => hl ((shorten_sublist l).subset hmem)
    · exact hl

theorem reducedLine_reducedLine (path : List String) (l : Text) :
    reducedLine path (reducedLine path l) = reducedLine path l := by
  rw [reducedLine, Outline.change, Outline.change]
  split
  · exact shorten_shorten l
  · rfl

/-- What the filter does on a path: it shortens all lines, or none. -/
theorem rewritesLines (ps : Params) :
    (application ps).RewritesLines (Outline.changeAll shortensAt shorten) := by
  refine (decisive ps).rewritesLines ?_ ?_
  · intro path ls hls
    rw [Outline.changeAll]
    split
    · rw [List.forall_mem_map]
      exact fun l hl hmem => hls l hl ((shorten_sublist l).subset hmem)
    · exact hls
  · intro g path ls q hq _ hls
    rw [ruleAt_application] at hq
    obtain ⟨r, hr, rfl⟩ := Option.map_eq_some_iff.mp hq
    have hacts : shortensAt path = decide (Shortens r) := by
      rw [shortensAt, hr]
      rfl
    rw [Outline.changeAll, hacts, readyRule]
    dsimp only
    by_cases hshortens : Shortens r
    · have hpass : pattern.Rewrites pattern.freshSlots
          (Regex.expansion (.ofNode pattern) (Regex.Replacement.explicit
            reduction.replacement.toList)) none (Text.unlines ls)
          (Text.unlines (ls.map shorten)) := becomes_lines hls none
      rw [if_pos hshortens, if_pos (decide_eq_true hshortens),
        Substitution.runOps_ready solid_pattern hpass]
      exact Yields.pure _
    · rw [if_neg hshortens, if_neg (by simpa using hshortens)]
      exact Yields.pure _

/-- **What the filter leaves** are the records with their dates shortened. -/
theorem run_delivers (ps : Params) {ts : List Text} {rs : List Record} (hts : Delivers ts rs)
    (s : Run) :
    ∃ trace s', (reduceDates.run ps ts).run s =
      (.ok ((rs.map reduced).map Record.written, trace), s') := by
  have hroot : shortensAt [] = false := by
    rw [shortensAt, RuleSet.deciding, firstMatch_nil]
    rfl
  obtain ⟨trace, s', hrun⟩ := (rewritesLines ps).run_delivers hts s
  refine ⟨trace, s', ?_⟩
  have hwritten : ∀ r : Record,
      Text.unlines (r.rewritten (Outline.changeAll shortensAt shorten)) =
        ((some (reduced r)).map Record.written).getD [] := by
    intro r
    rw [Record.rewritten_changeAll hroot shorten_shorten]
    rfl
  rw [Filter.run_of_compile (compile_reduceDates ps)]
  simp only [hwritten] at hrun
  rw [Cleaner.filter_map_written, List.filterMap_eq_map'] at hrun
  exact hrun

/-! ## The filter -/

/-- What may become of a line: it stays on its path, and says the same in front of its value.  If
it is changed at all, then a rule that shortens dates decides on the path of a line with the tag
of dates, which is the line itself or stands above it. -/
structure Reduces (e e' : List String × Text) : Prop where
  path : e'.1 = e.1
  heading : Line.heading? e'.2 = Line.heading? e.2
  dated : e'.2 ≠ e.2 → ∃ path rule, path <+: e.1 ∧ path.getLast? = some "DATE" ∧
    (reduceDates.rules {}).deciding path = some rule ∧ Shortens rule

theorem mem_of_deciding {path : List String} {rule : Rule}
    (h : (reduceDates.rules {}).deciding path = some rule) :
    rule ∈ (reduceDates.rules {}).rules ∧ (Pattern.mk rule.pattern).admits path = true := by
  have hat : (application {}).ruleAt path = some (readyRule rule) := by
    rw [ruleAt_application, h, Option.map_some]
  have hadmits : (readyRule rule).pattern.admits path = true :=
    List.find?_some (p := fun q : ReadyRule => q.pattern.admits path) hat
  obtain ⟨i, _, hi⟩ := Option.bind_eq_some_iff.mp h
  exact ⟨List.mem_of_getElem? hi, hadmits⟩

theorem reduces_reducedLine {e : List String × Text} (he : wildcard ∉ e.1) :
    Reduces e (e.1, reducedLine e.1 e.2) where
  path := rfl
  heading := keepsHeadings_reducedLine.heading e.1 e.2
  dated hne := by
    have hreached : Outline.reached shortensAt e.1 = true := by
      by_contra hnot
      exact hne (if_neg hnot)
    obtain ⟨path, hpath, hshortens⟩ := Outline.reached_iff.mp hreached
    obtain ⟨rule, hrule, hdecides⟩ := (Option.any_eq_true _ _).mp hshortens
    have hrule' : Shortens rule := of_decide_eq_true hdecides
    obtain ⟨hmem, hadmits⟩ := mem_of_deciding hrule
    refine ⟨path, rule, hpath, ?_, hrule, hrule'⟩
    rcases (ops_of_mem_rules rule hmem).2 with hidle | ⟨_, hlast⟩
    · exact absurd hrule' (not_shortens hidle)
    · have hwildcard : wildcard ∉ path := fun h => he (hpath.subset h)
      rw [Pattern.admits, matchTags_eq_tagsAgree (by rintro h; simp [h] at hlast)
        (by rw [hlast]; decide) hwildcard] at hadmits
      exact getLast?_of_tagsAgree hadmits hlast (by decide)

/-- **Dates reduced to years.**  The filter succeeds on every transmission and leaves its records
with their dates shortened.  So records and lines stay in number and order, and every line keeps
its path, its level, its identifier and its tag; it is changed only if a rule that shortens dates
decides on it or on a line above.  What the filter leaves are records again, and these it leaves as
they are. -/
theorem run_reduceDates (ps : Params) (d : Transmission) {ts : List Text}
    (hts : ts.flatMap recordBlocks = recordBlocks d.text) (s : Run) :
    ∃ trace s', (reduceDates.run ps ts).run s =
        (.ok (((records d.text).map reduced).map Record.written, trace), s') ∧
      (∀ r ∈ records d.text, List.Forall₂ Reduces r.entries (reduced r).entries) ∧
      Delivers (((records d.text).map reduced).map Record.written)
        ((records d.text).map reduced) ∧
      ∀ (us : List Text) (s₂ : Run), Delivers us ((records d.text).map reduced) →
        ∃ trace₂ s₂', (reduceDates.run ps us).run s₂ =
          (.ok (((records d.text).map reduced).map Record.written, trace₂), s₂') := by
  have hdelivers := d.delivers hts
  obtain ⟨trace, s', hrun⟩ := run_delivers ps hdelivers s
  refine ⟨trace, s', hrun, fun r hr => ?_, ?_, fun us s₂ hus => ?_⟩
  · rw [reduced, Record.entries_reworded keepsHeadings_reducedLine, List.forall₂_map_right_iff,
      List.forall₂_same]
    exact fun e he => reduces_reducedLine
      (Record.wildcard_notMem_of_mem_entries (hdelivers.legible r hr) he)
  · refine delivers_written (List.forall_mem_map.mpr fun r hr => ?_)
    exact Record.isLegible_reworded keepsHeadings_reducedLine (hdelivers.legible r hr)
  · have hagain : ((records d.text).map reduced).map reduced = (records d.text).map reduced := by
      rw [List.map_map]
      exact List.map_congr_left fun r _ =>
        Record.reworded_reworded keepsHeadings_reducedLine reducedLine_reducedLine r
    obtain ⟨trace₂, s₂', hrun₂⟩ := run_delivers ps hus s₂
    rw [hagain] at hrun₂
    exact ⟨trace₂, s₂', hrun₂⟩

/-- A birth with a date and a note on the date, and a change that is dated. -/
def dated : Transmission where
  lines := ["0 @I1@ INDI", "1 BIRT", "2 DATE BET 12 MAR 1901 AND 3 APR 1903",
    "3 NOTE 1 DATE 7 MAY 1902", "1 CHAN", "2 DATE 1 JAN 2020"].map String.toList
  stepwise := by decide

/-- A range is kept as one, what reads like a date in the note is shortened as well, and the date of
the change stays. -/
theorem run_reduceDates_dated :
    (∃ trace s', (reduceDates.run {} (recordBlocks dated.text)).run {} =
        (.ok (((records dated.text).map reduced).map Record.written, trace), s') ∧
      ∃ trace₂ s₂', (reduceDates.run {}
          (((records dated.text).map reduced).map Record.written)).run {} =
        (.ok (((records dated.text).map reduced).map Record.written, trace₂), s₂')) ∧
      ((records dated.text).map reduced).map (fun r => r.lines.map String.ofList) =
        [["0 @I1@ INDI", "1 BIRT", "2 DATE BET 1901 AND 1903", "3 NOTE 1 DATE 1902", "1 CHAN",
          "2 DATE 1 JAN 2020"]] := by
  obtain ⟨trace, s', hrun, _, hdelivers, hagain⟩ :=
    run_reduceDates {} dated dated.flatMap_recordBlocks {}
  exact ⟨⟨trace, s', hrun, hagain _ {} hdelivers⟩, by decide +kernel⟩

end Dates
end Gedcom
