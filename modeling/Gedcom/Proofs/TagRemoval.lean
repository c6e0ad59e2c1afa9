import Gedcom.Proofs.MatchedPaths
import Gedcom.Proofs.RuleFileLines

/-!
# Filters that remove a tag

A filter that removes a tag lists it once for every depth: wildcards with the tag behind them,
and the companion of this pattern, which goes on with one more wildcard.  The two together match
the paths that begin with the tags of the pattern (`Pattern.admits_or_companion`).  So nine
patterns add up to one condition, that the tag is among the first four of a path
(`firstMatch_withoutTag`), and two more in front of them to an exception for what begins with a
path (`Remover.firstMatch_filter`).

The condition holds of what stands below a line if it holds of the line.  Filters of this kind
cut whole structures out of records, and find nothing to do when they are applied again
(`exists_run_of_downward`).  `run_removers` says what this means for the lines of a transmission.
-/
namespace Gedcom

/-! ## Patterns with companions -/

section Companions
variable {tags path : List String}

/-- A pattern and its companion, which goes on with a wildcard, match the paths that begin with
the tags of the pattern. -/
theorem matchTags_or_companion (htags : tags ≠ []) (hlast : tags.getLast? ≠ some wildcard)
    (hpath : wildcard ∉ path) :
    (matchTags tags path || matchTags (tags ++ [wildcard]) path) =
      tagsAgree tags (path.take tags.length) := by
  fun_induction matchTags tags path with
  | case1 => exact absurd rfl htags
  | case2 p hp =>
    obtain ⟨t, ts, rfl⟩ := List.exists_cons_of_ne_nil hp
    cases ts <;> rfl
  | case3 p t =>
    have ht : (t == wildcard) = false := beq_false_of_ne (List.ne_of_not_mem_cons hpath).symm
    simp [matchTags, tagsAgree, ht]
  | case4 p t u ts =>
    have hp : (p == wildcard) = false := beq_false_of_ne fun h => hlast (congrArg some h)
    have hrest : matchTags [wildcard] (u :: ts) = true := matchTags_wildcard (List.cons_ne_nil u ts)
    simp [matchTags, tagsAgree, hp, hrest]
  | case5 p q ps t =>
    have ht : (t == wildcard) = false := beq_false_of_ne (List.ne_of_not_mem_cons hpath).symm
    simp [matchTags, tagsAgree, ht]
  | case6 p q ps t u ts ih =>
    rw [List.getLast?_cons_cons] at hlast
    have hrest := ih (List.cons_ne_nil q ps) hlast fun h => hpath (List.mem_cons_of_mem t h)
    rw [List.cons_append, List.cons_append, matchTags, ← Bool.and_or_distrib_left]
    rw [List.cons_append] at hrest
    rw [hrest]
    rfl

theorem Pattern.admits_or_companion {p companion : Pattern} (htags : p.tags = tags)
    (hcompanion : companion.tags = tags ++ [wildcard]) (hne : tags ≠ [])
    (hlast : tags.getLast? ≠ some wildcard) (hpath : wildcard ∉ path) :
    (p.admits path = true ∨ companion.admits path = true) ↔
      tagsAgree tags (path.take tags.length) = true := by
  rw [admits, admits, htags, hcompanion, ← Bool.or_eq_true,
    matchTags_or_companion hne hlast hpath]

/-- A tag behind some wildcards. -/
def deepTags (depth : Nat) (tag : String) : List String := List.replicate depth wildcard ++ [tag]

theorem length_deepTags (depth : Nat) (tag : String) : (deepTags depth tag).length = depth + 1 := by
  rw [deepTags, List.length_append, List.length_replicate, List.length_singleton]

theorem deepTags_ne_nil (depth : Nat) (tag : String) : deepTags depth tag ≠ [] := by
  rw [deepTags]
  simp

theorem getLast?_deepTags {tag : String} (htag : tag ≠ wildcard) (depth : Nat) :
    (deepTags depth tag).getLast? ≠ some wildcard := by
  rw [deepTags, List.getLast?_concat]
  exact fun h => htag (Option.some.inj h)

/-- The wildcards in front of a tag agree with whatever stands there. -/
theorem tagsAgree_deepTags {tag : String} (htag : tag ≠ wildcard) (depth : Nat) :
    tagsAgree (deepTags depth tag) (path.take (depth + 1)) = true ↔ path[depth]? = some tag := by
  unfold deepTags
  induction depth generalizing path with
  | zero =>
    cases path with
    | nil => simp [tagsAgree]
    | cons t ts =>
      simp only [List.replicate_zero, List.nil_append, Nat.zero_add, List.take_succ_cons,
        List.take_zero, tagsAgree, beq_false_of_ne htag, Bool.false_or, Bool.and_true, beq_iff_eq,
        List.getElem?_cons_zero, Option.some.injEq]
      exact eq_comm
  | succ depth ih =>
    cases path with
    | nil => simp [tagsAgree, List.replicate_succ]
    | cons t ts =>
      rw [List.replicate_succ, List.cons_append, List.take_succ_cons, tagsAgree, beq_self_eq_true,
        Bool.true_or, Bool.true_and, ih, List.getElem?_cons_succ]

/-- Tags that are no wildcards agree with themselves. -/
theorem tagsAgree_take (htags : wildcard ∉ tags) :
    tagsAgree tags (path.take tags.length) = true ↔ tags <+: path := by
  induction tags generalizing path with
  | nil => simp [tagsAgree]
  | cons t ts ih =>
    have ht := List.ne_of_not_mem_cons htags
    have hts := List.not_mem_of_not_mem_cons htags
    cases path with
    | nil => simp [tagsAgree]
    | cons u us =>
      rw [List.length_cons, List.take_succ_cons, tagsAgree, Bool.and_eq_true, ih hts,
        List.cons_prefix_cons, beq_false_of_ne ht.symm, Bool.false_or, beq_iff_eq]

end Companions

/-! ## Patterns that decide -/

section Decide
variable {ps : List Pattern} {path : List String}

/-- If everything is kept that no excluding pattern matches, what is dropped is what one of them
matches. -/
theorem firstMatch_concat_wildcard (hps : ∀ p ∈ ps, p.excludes = true) (hpath : path ≠ []) :
    firstMatch (ps ++ [⟨"*"⟩]) path = none ↔ ∃ p ∈ ps, p.admits path = true := by
  induction ps with
  | nil =>
    have hlone : Pattern.admits ⟨"*"⟩ path = true := matchTags_wildcard hpath
    refine iff_of_false ?_ (by simp)
    rw [List.nil_append, firstMatch, if_pos hlone]
    exact Option.some_ne_none 0
  | cons p ps ih =>
    obtain ⟨hp, hps⟩ := List.forall_mem_cons.mp hps
    rw [List.cons_append, firstMatch, hp, List.exists_mem_cons_iff, ← ih hps]
    cases p.admits path with
    | true => simp
    | false => simp

/-- What patterns in front keep is kept; on what they do not match the others decide. -/
theorem firstMatch_append_eq_none {keeping : List Pattern}
    (hkeeping : ∀ p ∈ keeping, p.excludes = false) :
    firstMatch (keeping ++ ps) path = none ↔
      (∀ p ∈ keeping, p.admits path = false) ∧ firstMatch ps path = none := by
  induction keeping with
  | nil => simp
  | cons p keeping ih =>
    obtain ⟨hp, hkeeping⟩ := List.forall_mem_cons.mp hkeeping
    rw [List.cons_append, firstMatch, hp, List.forall_mem_cons, and_assoc, ← ih hkeeping]
    cases p.admits path with
    | true => simp
    | false => simp

end Decide

/-- The body of an excluding pattern. -/
theorem Pattern.body_excluding (s : String) :
    (Pattern.mk ("!" ++ s)).body = s.toList ∧ (Pattern.mk ("!" ++ s)).excludes = true := by
  rw [body, excludes, String.toList_append]
  exact ⟨rfl, rfl⟩

namespace Catalog

/-- A tag behind some wildcards, as it stands in a pattern. -/
def deep (depth : Nat) (tag : String) : String := String.join (List.replicate depth "*:") ++ tag

section Tag
variable {tag : String} {path : List String}

/-- The fields of a tag behind some wildcards. -/
theorem fields_deep (depth : Nat) (tag : String) (rest : Text) :
    Text.fields (· == ':') ((deep depth tag).toList ++ rest) =
      List.replicate depth ['*'] ++ Text.fields (· == ':') (tag.toList ++ rest) := by
  have hfirst : ∀ t, Text.fields (· == ':') (['*'] ++ [':'] ++ t) =
      ['*'] :: Text.fields (· == ':') t :=
    Text.fields_append (by simp) (by simp) (by simp) (by simp)
  induction depth with
  | zero => rfl
  | succ depth ih =>
    rw [deep, List.replicate_succ, String.join_cons, String.append_assoc, String.toList_append,
      List.append_assoc, List.replicate_succ, List.cons_append, ← ih]
    exact hfirst _

/-- The tags of a pattern that excludes a tag at a depth, and of its companion. -/
theorem tags_excluding (htag : Line.isTag tag = true) (depth : Nat) :
    (Pattern.mk ("!" ++ deep depth tag)).tags = deepTags depth tag ∧
      (Pattern.mk ("!" ++ deep depth tag ++ ":*")).tags = deepTags depth tag ++ [wildcard] := by
  have hne : tag.toList ≠ [] := by
    simpa [Line.isTag] using (Bool.and_eq_true_iff.mp htag).1
  have hcolon : ∀ c ∈ tag.toList, (c == ':') = false := by
    intro c hc
    rw [beq_eq_false_iff_ne]
    rintro rfl
    exact Line.colon_notMem_of_isTag htag hc
  have hwildcards : (List.replicate depth ['*']).map String.ofList =
      List.replicate depth wildcard := by
    rw [List.map_replicate]
    rfl
  constructor
  · have hfields := fields_deep depth tag []
    rw [List.append_nil, List.append_nil, Text.fields_eq_singleton hne hcolon] at hfields
    rw [Pattern.tags, tagsOf, (Pattern.body_excluding _).1, hfields, List.map_append, hwildcards,
      List.map_singleton, String.ofList_toList, deepTags]
  · have hcompanion : Text.fields (· == ':') (tag.toList ++ ":*".toList) = [tag.toList, ['*']] := by
      show Text.fields (· == ':') (tag.toList ++ ([':'] ++ ['*'])) = _
      rw [← List.append_assoc, Text.fields_append hne hcolon (by simp) (by simp)]
      rfl
    rw [String.append_assoc, Pattern.tags, tagsOf, (Pattern.body_excluding _).1,
      String.toList_append, fields_deep, hcompanion, List.map_append, hwildcards, List.map_cons,
      String.ofList_toList, deepTags, List.append_assoc]
    rfl

/-- A pattern that excludes a tag at a depth and its companion match the paths that have the tag
at this depth. -/
theorem admits_excluding (htag : Line.isTag tag = true) (depth : Nat) (hpath : wildcard ∉ path) :
    (Pattern.admits ⟨"!" ++ deep depth tag⟩ path = true ∨
      Pattern.admits ⟨"!" ++ deep depth tag ++ ":*"⟩ path = true) ↔ path[depth]? = some tag := by
  have hne := Line.ne_wildcard_of_isTag htag
  obtain ⟨htags, hcompanion⟩ := tags_excluding htag depth
  rw [Pattern.admits_or_companion htags hcompanion (deepTags_ne_nil depth tag)
    (getLast?_deepTags hne depth) hpath, length_deepTags, tagsAgree_deepTags hne]

/-- **What is dropped with a tag**: the paths that have it at one of the first four positions. -/
theorem firstMatch_withoutTag (htag : Line.isTag tag = true) (hne : path ≠ [])
    (hpath : wildcard ∉ path) :
    firstMatch ((withoutTag tag).map Pattern.mk) path = none ↔ tag ∈ path.take 4 := by
  have hdepth : ∀ depth, path[depth]? = some tag ↔
      ∃ p ∈ ["!" ++ deep depth tag, "!" ++ deep depth tag ++ ":*"].map Pattern.mk,
        p.admits path = true := by
    intro depth
    rw [← admits_excluding htag depth hpath]
    simp
  rw [withoutTag, List.map_append, List.map_singleton, firstMatch_concat_wildcard _ hne]
  · rw [List.mem_iff_getElem?, List.map_flatMap]
    simp only [List.mem_flatMap, List.mem_range, List.getElem?_take]
    constructor
    · rintro ⟨p, ⟨depth, hlt, hp⟩, hadmits⟩
      exact ⟨depth, by rw [if_pos hlt]; exact (hdepth depth).mpr ⟨p, hp, hadmits⟩⟩
    · rintro ⟨depth, htake⟩
      split at htake
      · rename_i hlt
        obtain ⟨p, hp, hadmits⟩ := (hdepth depth).mp htake
        exact ⟨p, ⟨depth, hlt, hp⟩, hadmits⟩
      · cases htake
  · rw [List.map_flatMap]
    intro p hp
    obtain ⟨depth, _, hp⟩ := List.mem_flatMap.mp hp
    rw [List.map_cons, List.map_singleton, List.mem_cons, List.mem_singleton] at hp
    rcases hp with rfl | rfl
    · exact (Pattern.body_excluding _).2
    · rw [String.append_assoc]
      exact (Pattern.body_excluding _).2

end Tag
end Catalog

/-! ## Records without whole structures -/

namespace Outline
variable {path : List String}

/-- The trails of an outline lead along the paths of its entries. -/
theorem map_trails (path : List String) (o : Outline) :
    o.trails.map (fun ls => path ++ ls.map Line.tagOf) = (o.entries path).map (·.1) := by
  induction o generalizing path with
  | empty => rfl
  | entry l below after ihbelow ihafter =>
    rw [trails, entries]
    simp only [List.map_cons, List.map_append, List.map_map, Function.comp_def, List.map_nil,
      ← ihbelow, ← ihafter, List.append_assoc, List.singleton_append]

/-- The path of a line ends with its tag. -/
theorem getLast?_of_mem_entries {o : Outline} {e : List String × Text} (he : e ∈ o.entries path) :
    e.1.getLast? = some (Line.tagOf e.2) := by
  induction o generalizing path with
  | empty => cases he
  | entry l below after ihbelow ihafter =>
    rcases List.mem_cons.mp he with rfl | he
    · exact List.getLast?_concat
    · rcases List.mem_append.mp he with he | he
      · exact ihbelow he
      · exact ihafter he

/-- A line that is cut out stands in a structure that begins with a line that is dropped. -/
theorem exists_of_cutsOut {drops : List String → Text → Bool} {ls : List Text}
    (h : cutsOut drops path ls = true) :
    ∃ above l rest, ls = above ++ l :: rest ∧
      drops (path ++ above.map Line.tagOf ++ [Line.tagOf l]) l = true := by
  induction ls generalizing path with
  | nil => cases h
  | cons l ls ih =>
    rcases Bool.or_eq_true_iff.mp h with hl | hls
    · exact ⟨[], l, ls, rfl, by simpa using hl⟩
    · obtain ⟨above, m, rest, rfl, hm⟩ := ih hls
      exact ⟨l :: above, m, rest, rfl, by simpa using hm⟩

end Outline

namespace Record
variable {ps : List Pattern} {r : Record}

/-- The lines of a record, each of them behind the lines above it. -/
def trails (r : Record) : List (List Text) := (Outline.entry r.head r.below .empty).trails

theorem ne_nil_of_mem_entries {r : Record} {e : List String × Text} (he : e ∈ r.entries) :
    e.1 ≠ [] := by
  rw [← r.entries_eq] at he
  exact (Outline.prefix_of_mem_entries he).2

theorem getLast?_of_mem_entries {r : Record} {e : List String × Text} (he : e ∈ r.entries) :
    e.1.getLast? = some (Line.tagOf e.2) := by
  rw [← r.entries_eq] at he
  exact Outline.getLast?_of_mem_entries he

theorem path_of_mem_trails (hr : r.isLegible = true) {ls : List Text} (hls : ls ∈ r.trails) :
    (ls.map Line.tagOf).length ≤ Line.maxLevel + 1 ∧
      ∀ tag ∈ ls.map Line.tagOf, Line.isTag tag = true := by
  have hmem : ls.map Line.tagOf ∈ r.trails.map fun ls => [] ++ ls.map Line.tagOf :=
    List.mem_map_of_mem (f := fun ls => [] ++ ls.map Line.tagOf) hls
  rw [trails, Outline.map_trails] at hmem
  obtain ⟨e, he, hpath⟩ := List.mem_map.mp hmem
  obtain ⟨hhead, hbelow⟩ := Bool.and_eq_true_iff.mp hr
  rw [← hpath]
  exact Outline.path_of_mem_entries (Outline.isLegible_entry.mpr ⟨hhead, hbelow, rfl⟩) rfl
    (List.forall_mem_nil _) he

/-- Under rules that keep nothing directly below what they drop, a line is cut out exactly if it
is dropped itself. -/
theorem cutsOut_eq (h : Downward ps) (hr : r.isLegible = true) {ls : List Text}
    (hls : ls ∈ r.trails) :
    Outline.cutsOut (drops ps) [] ls = (firstMatch ps (ls.map Line.tagOf)).isNone := by
  obtain ⟨hlength, htags⟩ := path_of_mem_trails hr hls
  rw [Bool.eq_iff_iff, Option.isNone_iff_eq_none]
  constructor
  · intro hcut
    obtain ⟨above, l, rest, rfl, hl⟩ := Outline.exists_of_cutsOut hcut
    have hsplit : (above ++ l :: rest).map Line.tagOf =
        (above.map Line.tagOf ++ [Line.tagOf l]) ++ rest.map Line.tagOf := by simp
    rw [hsplit] at hlength htags ⊢
    exact h.firstMatch_append (by simp) (Option.isNone_iff_eq_none.mp hl) hlength htags
  · intro hdropped
    have hlast := List.getLast?_eq_some_getLast (Outline.ne_nil_of_mem_trails hls)
    exact Outline.cutsOut_of_drops hlast (Option.isNone_iff_eq_none.mpr hdropped)

/-- What is kept of a record, as an outline. -/
theorem outline_kept (ps : List Pattern) (r : Record) :
    ((r.kept ps).map fun q => Outline.entry q.head q.below .empty).getD .empty =
      (Outline.entry r.head r.below .empty).without (drops ps) [] := by
  rw [Outline.without, kept]
  by_cases hhead : firstMatch ps [r.tag] = none
  · rw [if_pos hhead, drops, List.nil_append, ← tag, hhead]
    rfl
  · have hkeeps : drops ps ([] ++ [Line.tagOf r.head]) r.head = false :=
      Option.isNone_eq_false_iff.mpr (Option.isSome_iff_ne_none.mpr hhead)
    rw [if_neg hhead, hkeeps, if_neg Bool.false_ne_true]
    rfl

/-- Under such rules the lines that are left stand below the lines where they stood. -/
theorem trails_kept (h : Downward ps) (hr : r.isLegible = true) :
    ((r.kept ps).map trails).getD [] =
      r.trails.filter fun ls => (firstMatch ps (ls.map Line.tagOf)).isSome := by
  have houtline := congrArg Outline.trails (outline_kept ps r)
  rw [Outline.trails_without] at houtline
  have hkept : ((r.kept ps).map trails).getD [] =
      r.trails.filter fun ls => !Outline.cutsOut (drops ps) [] ls := by
    rw [trails, ← houtline]
    cases r.kept ps <;> rfl
  rw [hkept]
  refine List.filter_congr fun ls hls => ?_
  rw [cutsOut_eq h hr hls, Option.not_isNone]

end Record

namespace Filter
variable {f : Filter} {ps : Params}

/-- Applying a valid filter without operations. -/
theorem exists_application_of_idle (hvalid : f.validate ps = .ok ())
    (hops : ∀ r ∈ (f.rules ps).rules, r.ops = []) :
    ∃ a : Application, a.Idle ∧ a.rules.patterns = (f.rules ps).patterns.map Pattern.mk ∧
      ∀ ts, f.run ps ts = a.run ts := by
  obtain ⟨rules, hcompile, hpatterns, hidle⟩ := exists_compile_of_idle hvalid hops
  refine ⟨⟨f, rules, ps⟩, hidle, hpatterns, fun ts => ?_⟩
  rw [Filter.run, hcompile]
  rfl

/-- **Filters that cut out whole structures**: a valid filter without operations that keeps
nothing directly below what it drops leaves records again, and leaves these as they are. -/
theorem exists_run_of_downward (hvalid : f.validate ps = .ok ())
    (hops : ∀ r ∈ (f.rules ps).rules, r.ops = [])
    (hdown : Downward ((f.rules ps).patterns.map Pattern.mk)) {ts : List Text} {rs : List Record}
    (hts : Delivers ts rs) (s : Run) :
    ∃ qs trace s', (f.run ps ts).run s = (.ok (qs.map Record.written, trace), s') ∧
      qs = rs.filterMap (Record.kept ((f.rules ps).patterns.map Pattern.mk)) ∧
      ∀ s₂, ∃ trace₂ s₃,
        (f.run ps (qs.map Record.written)).run s₂ = (.ok (qs.map Record.written, trace₂), s₃) := by
  obtain ⟨a, ha, hpatterns, happly⟩ := exists_application_of_idle hvalid hops
  rw [← hpatterns] at hdown ⊢
  have hwritten : (rs.filterMap (Record.kept a.rules.patterns)).map Record.written =
      (a.leftovers rs).map Text.unlines :=
    Application.map_written_kept fun r hr => hdown.keepsAbove (hts.legible r hr)
  obtain ⟨trace, s', hrun⟩ := Application.exists_run_of_idle ha hts s
  refine ⟨_, trace, s', ?_, rfl, fun s₂ => ?_⟩
  · rw [happly, hwritten]
    exact hrun
  · rw [happly, hwritten]
    refine (Application.run_unlines_iff ha
      (fun ls hls => Application.leftover_of_mem_leftovers hts.legible hls) s₂).mpr ?_
    exact (Application.settled_leftovers_iff rs).mpr fun r hr => hdown.settles (hts.legible r hr)

end Filter

/-! ## The filters that remove a tag -/

namespace Catalog

/-- A filter that removes a tag. -/
structure Remover where
  filter : Filter
  tag : String
  /-- The paths whose structures it leaves alone. -/
  spared : List (List String) := []

/-- The filters that remove a tag everywhere. -/
def removers : List Remover :=
  [{ filter := removeAllNotes, tag := "NOTE" }, { filter := removeAllMediaObjects, tag := "OBJE" },
    { filter := removeAllSources, tag := "SOUR", spared := [["HEAD", "SOUR"]] }]

namespace Remover
variable {m : Remover} {path : List String}

/-- Whether lines on a path are kept: it has the tag at none of its first four positions, or
begins with a path that is spared. -/
def Keeps (m : Remover) (path : List String) : Prop :=
  m.tag ∉ path.take 4 ∨ ∃ p ∈ m.spared, p <+: path

instance (m : Remover) (path : List String) : Decidable (m.Keeps path) :=
  inferInstanceAs (Decidable (_ ∨ _))

/-- The patterns that keep what is spared. -/
def sparing (m : Remover) : List Pattern :=
  m.spared.flatMap fun p => [⟨":".intercalate p⟩, ⟨":".intercalate p ++ ":*"⟩]

theorem validate_filter (hm : m ∈ removers) (ps : Params) : m.filter.validate ps = .ok () := by
  fin_cases hm <;> rfl

theorem ops_filter (hm : m ∈ removers) (ps : Params) :
    ∀ r ∈ (m.filter.rules ps).rules, r.ops = [] := by
  have hops : ∀ m ∈ removers, ∀ r ∈ (m.filter.rules {}).rules, r.ops = [] := by decide
  have hrules : m.filter.rules ps = m.filter.rules {} := by fin_cases hm <;> rfl
  exact hrules ▸ hops m hm

theorem patterns_filter (hm : m ∈ removers) (ps : Params) :
    (m.filter.rules ps).patterns.map Pattern.mk =
      m.sparing ++ (withoutTag m.tag).map Pattern.mk := by
  fin_cases hm <;> rfl

theorem isTag_tag : ∀ m ∈ removers, Line.isTag m.tag = true := by decide

theorem not_excludes_of_mem_sparing :
    ∀ m ∈ removers, ∀ p ∈ m.sparing, p.excludes = false := by decide

/-- What is spared is a path of tags, and does not lead past the tag that is removed. -/
theorem of_mem_spared : ∀ m ∈ removers, ∀ p ∈ m.spared,
    p ≠ [] ∧ p.getLast? ≠ some wildcard ∧ wildcard ∉ p ∧ m.tag ∉ p.dropLast ∧
      Pattern.tags ⟨":".intercalate p⟩ = p ∧
      Pattern.tags ⟨":".intercalate p ++ ":*"⟩ = p ++ [wildcard] := by
  decide

/-- The patterns in front match what begins with a path that is spared. -/
theorem exists_sparing_iff (hm : m ∈ removers) (hpath : wildcard ∉ path) :
    (∃ p ∈ m.sparing, p.admits path = true) ↔ ∃ p ∈ m.spared, p <+: path := by
  have hpair : ∀ p ∈ m.spared, (Pattern.admits ⟨":".intercalate p⟩ path = true ∨
      Pattern.admits ⟨":".intercalate p ++ ":*"⟩ path = true) ↔ p <+: path := by
    intro p hp
    obtain ⟨hne, hlast, hwildcard, _, htags, hcompanion⟩ := of_mem_spared m hm p hp
    rw [Pattern.admits_or_companion htags hcompanion hne hlast hpath, tagsAgree_take hwildcard]
  simp only [sparing, List.mem_flatMap]
  constructor
  · rintro ⟨q, ⟨p, hp, hq⟩, hadmits⟩
    rw [List.mem_cons, List.mem_singleton] at hq
    refine ⟨p, hp, (hpair p hp).mp ?_⟩
    rcases hq with rfl | rfl
    · exact .inl hadmits
    · exact .inr hadmits
  · rintro ⟨p, hp, hprefix⟩
    rcases (hpair p hp).mpr hprefix with hadmits | hadmits
    · exact ⟨_, ⟨p, hp, by simp⟩, hadmits⟩
    · exact ⟨_, ⟨p, hp, by simp⟩, hadmits⟩

/-- **Which lines a remover keeps**, by their paths. -/
theorem firstMatch_filter (hm : m ∈ removers) (ps : Params) (hne : path ≠ [])
    (hpath : wildcard ∉ path) :
    firstMatch ((m.filter.rules ps).patterns.map Pattern.mk) path ≠ none ↔ m.Keeps path := by
  have hspared := not_congr (exists_sparing_iff hm hpath)
  simp only [not_exists, not_and, Bool.not_eq_true] at hspared
  rw [patterns_filter hm, ne_eq, firstMatch_append_eq_none (not_excludes_of_mem_sparing m hm),
    firstMatch_withoutTag (isTag_tag m hm) hne hpath, hspared, Keeps, or_comm]
  simp only [not_and_or, not_forall, not_not, exists_prop]

/-- Nothing is kept directly below what is dropped. -/
theorem Keeps.of_concat (hm : m ∈ removers) {tag : String} (h : m.Keeps (path ++ [tag])) :
    m.Keeps path := by
  rcases h with htag | ⟨p, hp, hprefix⟩
  · refine .inl fun hmem => htag ?_
    rw [List.take_append]
    exact List.mem_append_left _ hmem
  · rcases List.prefix_concat_iff.mp hprefix with rfl | hprefix
    · have habove := (of_mem_spared m hm _ hp).2.2.2.1
      rw [List.dropLast_concat] at habove
      exact .inl fun hmem => habove (List.mem_of_mem_take hmem)
    · exact .inr ⟨p, hp, hprefix⟩

theorem downward_filter (hm : m ∈ removers) (ps : Params) :
    Downward ((m.filter.rules ps).patterns.map Pattern.mk) := by
  intro path tag _ hpath htag hdropped
  have hwildcard := wildcard_notMem_of_isPath hpath
  have hne : path ≠ [] := by
    rintro rfl
    cases hpath
  have hconcat : wildcard ∉ path ++ [tag] := by
    rw [List.mem_append, List.mem_singleton, not_or]
    exact ⟨hwildcard, (Line.ne_wildcard_of_isTag htag).symm⟩
  by_contra hkept
  have hkeeps := (firstMatch_filter hm ps (by simp) hconcat).mp hkept
  exact (firstMatch_filter hm ps hne hwildcard).mpr (hkeeps.of_concat hm) hdropped

end Remover

/-- What is left of some records if exactly the lines on some paths are kept. -/
structure Remains (keeps : List String → Prop) [DecidablePred keeps] (rs qs : List Record) :
    Prop where
  /-- The lines are those that are kept, as they were and in their order. -/
  lines : qs.flatMap Record.lines =
    ((rs.flatMap Record.entries).filter fun e => keeps e.1).map (·.2)
  /-- They stand below the lines where they stood, and records without lines are gone. -/
  trails : qs.map Record.trails =
    (rs.map fun r => r.trails.filter fun ls => keeps (ls.map Line.tagOf)).filter
      fun t => !t.isEmpty

theorem remains_filterMap_kept {keeps : List String → Prop} [DecidablePred keeps]
    {ps : List Pattern} (hdown : Downward ps)
    (hkeeps : ∀ path, path ≠ [] → wildcard ∉ path → (firstMatch ps path ≠ none ↔ keeps path))
    {rs : List Record} (hrs : ∀ r ∈ rs, r.isLegible = true) :
    Remains keeps rs (rs.filterMap (Record.kept ps)) where
  lines := by
    have hkept : ∀ r ∈ rs, ((r.kept ps).map Record.lines).getD [] =
        (r.entries.filter fun e => keeps e.1).map (·.2) := by
      intro r hr
      rw [Record.lines_kept (hdown.keepsAbove (hrs r hr)), keptLines]
      refine congrArg (List.map Prod.snd) (List.filter_congr fun e he => ?_)
      rw [Bool.eq_iff_iff, decide_eq_true_eq, Option.isSome_iff_ne_none]
      exact hkeeps _ (Record.ne_nil_of_mem_entries he)
        (Record.wildcard_notMem_of_mem_entries (hrs r hr) he)
    rw [List.flatMap_def, map_filterMap_eq _ (g := Record.lines) (fun q => List.cons_ne_nil _ _),
      List.flatten_filter_not_isEmpty, List.map_congr_left hkept, List.filter_flatMap,
      List.map_flatMap, List.flatMap_def]
  trails := by
    have htrails : ∀ r ∈ rs, ((r.kept ps).map Record.trails).getD [] =
        r.trails.filter fun ls => keeps (ls.map Line.tagOf) := by
      intro r hr
      rw [Record.trails_kept hdown (hrs r hr)]
      refine List.filter_congr fun ls hls => ?_
      have hne : ls.map Line.tagOf ≠ [] := by
        simpa using Outline.ne_nil_of_mem_trails hls
      have hwildcard :=
        wildcard_notMem_of_isTag (Record.path_of_mem_trails (hrs r hr) hls).2
      rw [Bool.eq_iff_iff, decide_eq_true_eq, Option.isSome_iff_ne_none]
      exact hkeeps _ hne hwildcard
    rw [map_filterMap_eq _ (g := Record.trails) (fun q => List.cons_ne_nil _ _),
      List.map_congr_left htrails]

/-- **Filters that remove a tag** keep exactly the lines on whose paths it stands at none of the
first four positions, and those on paths that begin with one that is spared.  What is left stands
where it stood, and removing the tag again changes nothing. -/
theorem run_removers {m : Remover} (hm : m ∈ removers) (ps : Params) (d : Transmission)
    {ts : List Text} (hts : ts.flatMap recordBlocks = recordBlocks d.text) (s : Run) :
    ∃ qs trace s', (m.filter.run ps ts).run s = (.ok (qs.map Record.written, trace), s') ∧
      Delivers (qs.map Record.written) qs ∧ Remains m.Keeps (records d.text) qs ∧
      ∀ s₂, ∃ trace₂ s₃, (m.filter.run ps (qs.map Record.written)).run s₂ =
        (.ok (qs.map Record.written, trace₂), s₃) := by
  have hdelivers := d.delivers hts
  have hdown := Remover.downward_filter hm ps
  obtain ⟨qs, trace, s', hrun, rfl, hagain⟩ :=
    Filter.exists_run_of_downward (Remover.validate_filter hm ps) (Remover.ops_filter hm ps) hdown
      hdelivers s
  refine ⟨_, trace, s', hrun, delivers_written fun q hq => ?_, ?_, hagain⟩
  · obtain ⟨r, hr, hq⟩ := List.mem_filterMap.mp hq
    exact Record.isLegible_of_kept (hdelivers.legible r hr) hq
  · exact remains_filterMap_kept hdown (fun path => Remover.firstMatch_filter hm ps)
      hdelivers.legible

/-- A header that names its system, a citation, and a record of a source. -/
def voyage : Transmission where
  lines := ["0 HEAD", "1 SOUR Ada", "2 VERS 7", "0 @I1@ INDI", "1 NAME Ada", "1 BIRT",
    "2 SOUR @S1@", "3 PAGE 7", "2 PLAC At sea", "0 @S1@ SOUR", "1 TITL Tides"].map String.toList
  stepwise := by decide

/-- The header keeps its system; the citation and the record go. -/
theorem run_removers_voyage :
    (∃ qs trace s', (removeAllSources.run {} (recordBlocks voyage.text)).run {} =
        (.ok (qs.map Record.written, trace), s') ∧
      Remains (Remover.Keeps ⟨removeAllSources, "SOUR", [["HEAD", "SOUR"]]⟩)
        (records voyage.text) qs) ∧
      ((removeAllSources.run {} (recordBlocks voyage.text)).run {}).1.toOption.map (·.1) =
        some (["0 HEAD\n1 SOUR Ada\n2 VERS 7\n",
          "0 @I1@ INDI\n1 NAME Ada\n1 BIRT\n2 PLAC At sea\n"].map String.toList) := by
  have hm : ⟨removeAllSources, "SOUR", [["HEAD", "SOUR"]]⟩ ∈ removers := by simp [removers]
  obtain ⟨qs, trace, s', hrun, _, hremains, _⟩ :=
    run_removers hm {} voyage voyage.flatMap_recordBlocks {}
  exact ⟨⟨qs, trace, s', hrun, hremains⟩, by decide +kernel⟩

end Catalog
end Gedcom
