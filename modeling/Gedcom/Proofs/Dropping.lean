import Gedcom.Proofs.RecordGraph

/-!
# Filters that only drop

Many filters have rules without substitutions: a rule does nothing, or it hands
structures to a hook, which drops them or gives them back and leaves the reference
graph alone.  What such a filter leaves of a record is again a record, with some of its
structures cut out (`Outline.without`; `Outline.Cut` says this of two outlines without
saying by which test).

`Decisive` and `OnlyConverts` collect what the rules have to satisfy.  Under them the rule that
decides on a path is the first one that admits it, no line is handed to the hook twice, and
what is left of an outline is found by asking the hook about each line
(`yields_outlineRemnant`).  `run_of_yields` goes from records to a whole transmission.
-/
namespace Gedcom

/-! ## Outlines without some structures -/

namespace Outline

/-- An outline without the structures whose path and first line satisfy a test. -/
def without (drops : List String → Text → Bool) (path : List String) : Outline → Outline
  | .empty => .empty
  | .entry l below after =>
    if drops (path ++ [Line.tagOf l]) l then after.without drops path
    else .entry l (below.without drops (path ++ [Line.tagOf l])) (after.without drops path)

/-- The lines of an outline that stands below lines with the tags `path`, with their paths. -/
def entries (path : List String) : Outline → List (List String × Text)
  | .empty => []
  | .entry l below after =>
    (path ++ [Line.tagOf l], l) ::
      (below.entries (path ++ [Line.tagOf l]) ++ after.entries path)

/-- An outline as a filter writes it, every line with its newline. -/
def written (o : Outline) : Text := o.lines.flatMap fun l => l ++ ['\n']

theorem written_entry (l : Text) (below after : Outline) :
    (entry l below after).written = (l ++ '\n' :: below.written) ++ after.written := by
  rw [written, lines, List.flatMap_cons, List.flatMap_append, written, written]
  simp

/-- The lines of an outline, with and without their paths. -/
theorem map_snd_entries (path : List String) (o : Outline) :
    (o.entries path).map (·.2) = o.lines := by
  induction o generalizing path with
  | empty => rfl
  | entry l below after ihbelow ihafter =>
    rw [entries, List.map_cons, List.map_append, ihbelow, ihafter, lines]

section Without
variable {drops : List String → Text → Bool} {path : List String} {o : Outline}

theorem lines_without_subset : (o.without drops path).lines ⊆ o.lines := by
  induction o generalizing path with
  | empty => exact fun _ hl => hl
  | entry l below after ihbelow ihafter =>
    rw [without]
    intro m hm
    split at hm
    · exact List.mem_cons_of_mem _ (List.mem_append_right _ (ihafter hm))
    · rcases List.mem_cons.mp hm with rfl | hm
      · exact List.mem_cons_self
      · refine List.mem_cons_of_mem _ (List.mem_append.mpr ?_)
        exact (List.mem_append.mp hm).imp (fun hm => ihbelow hm) fun hm => ihafter hm

theorem isLegible_without {level : Nat} (ho : o.isLegible level = true) :
    (o.without drops path).isLegible level = true := by
  induction o generalizing level path with
  | empty => exact ho
  | entry l below after ihbelow ihafter =>
    obtain ⟨hl, hbelow, hafter⟩ := isLegible_entry.mp ho
    rw [without]
    split
    · exact ihafter hafter
    · exact isLegible_entry.mpr ⟨hl, ihbelow hbelow, ihafter hafter⟩

/-- No line that is left satisfies the test. -/
theorem drops_of_mem_entries_without {e : List String × Text}
    (he : e ∈ (o.without drops path).entries path) : drops e.1 e.2 = false := by
  induction o generalizing path with
  | empty => cases he
  | entry l below after ihbelow ihafter =>
    rw [without] at he
    split at he
    · exact ihafter he
    · rename_i hdrop
      rcases List.mem_cons.mp he with rfl | he
      · exact Bool.not_eq_true _ ▸ hdrop
      · rcases List.mem_append.mp he with he | he
        · exact ihbelow he
        · exact ihafter he

/-- An outline of which no line satisfies the test stays as it is. -/
theorem without_eq_self (h : ∀ e ∈ o.entries path, drops e.1 e.2 = false) :
    o.without drops path = o := by
  induction o generalizing path with
  | empty => rfl
  | entry l below after ihbelow ihafter =>
    have hl : drops (path ++ [Line.tagOf l]) l = false := h _ List.mem_cons_self
    have hrest : ∀ e ∈ below.entries (path ++ [Line.tagOf l]) ++ after.entries path,
        drops e.1 e.2 = false := fun e he => h e (List.mem_cons_of_mem _ he)
    rw [without, hl, if_neg Bool.false_ne_true,
      ihbelow fun e he => hrest e (List.mem_append_left _ he),
      ihafter fun e he => hrest e (List.mem_append_right _ he)]

theorem length_written_without_le (drops : List String → Text → Bool) (path : List String)
    (o : Outline) : (o.without drops path).written.length ≤ o.written.length := by
  induction o generalizing path with
  | empty => exact Nat.le_refl _
  | entry l below after ihbelow ihafter =>
    rw [without, written_entry]
    split
    · rw [List.length_append]
      exact Nat.le_trans (ihafter path) (Nat.le_add_left _ _)
    · rw [written_entry]
      simp only [List.length_append, List.length_cons]
      have := ihbelow (path ++ [Line.tagOf l])
      have := ihafter path
      omega

/-- What is dropped is missing in the text. -/
theorem without_eq_self_of_written (h : (o.without drops path).written = o.written) :
    o.without drops path = o := by
  have hlength : o.written.length ≤ (o.without drops path).written.length :=
    Nat.le_of_eq (congrArg List.length h.symm)
  clear h
  induction o generalizing path with
  | empty => rfl
  | entry l below after ihbelow ihafter =>
    have hbelow := length_written_without_le drops (path ++ [Line.tagOf l]) below
    have hafter := length_written_without_le drops path after
    rw [without, written_entry] at hlength
    rw [without]
    split at hlength
    · simp only [List.length_append, List.length_cons] at hlength
      omega
    · rename_i hdrop
      rw [written_entry] at hlength
      simp only [List.length_append, List.length_cons] at hlength
      rw [if_neg hdrop, ihbelow (by omega), ihafter (by omega)]

end Without

/-- What is left of an outline from which some structures are cut out, each of them with a
first line that has a property. -/
inductive Cut (P : Text → Prop) : Outline → Outline → Prop
  | empty : Cut P .empty .empty
  | keep (l : Text) {below after below' after' : Outline} (hbelow : Cut P below below')
    (hafter : Cut P after after') : Cut P (.entry l below after) (.entry l below' after')
  | drop {l : Text} {below after after' : Outline} (hl : P l) (hafter : Cut P after after') :
    Cut P (.entry l below after) after'

/-- The lines of an outline, each of them behind the lines above it. -/
def trails : Outline → List (List Text)
  | .empty => []
  | .entry l below after => [l] :: (below.trails.map (l :: ·) ++ after.trails)

section Cut
variable {P : Text → Prop} {o o' : Outline}

/-- The lines that are left stand in their order below the lines where they stood. -/
theorem Cut.trails_sublist (h : Cut P o o') : o'.trails.Sublist o.trails := by
  induction h with
  | empty => exact .slnil
  | keep l _ _ ihbelow ihafter => exact ((ihbelow.map _).append ihafter).cons_cons [l]
  | drop _ _ ihafter => exact (ihafter.trans (List.sublist_append_right _ _)).cons _

/-- A line is left if neither it nor a line above it has the property. -/
theorem Cut.filter_trails_sublist [DecidablePred P] (h : Cut P o o') :
    (o.trails.filter fun ls => ∀ l ∈ ls, ¬P l).Sublist o'.trails := by
  induction h with
  | empty => exact .slnil
  | @keep l below after _ _ _ _ ihbelow ihafter =>
    rw [trails, trails, List.filter_cons, List.filter_append]
    have hinside : ((below.trails.map (l :: ·)).filter fun ls => ∀ m ∈ ls, ¬P m).Sublist
        ((below.trails.filter fun ls => ∀ m ∈ ls, ¬P m).map (l :: ·)) := by
      rw [List.filter_map]
      apply List.Sublist.map
      apply List.monotone_filter_right
      intro ls hls
      simp only [Function.comp_apply, decide_eq_true_eq] at hls ⊢
      intro m hm
      exact hls m (List.mem_cons_of_mem _ hm)
    have hrest := (hinside.trans (ihbelow.map _)).append ihafter
    split
    · exact hrest.cons_cons [l]
    · exact hrest.cons [l]
  | @drop l below after _ hl _ ihafter =>
    have hnone : ((below.trails.map (l :: ·)).filter fun ls => ∀ m ∈ ls, ¬P m) = [] := by
      rw [List.filter_eq_nil_iff]
      intro ls hls
      obtain ⟨ms, _, rfl⟩ := List.mem_map.mp hls
      simp only [decide_eq_true_eq]
      intro hall
      exact hall l List.mem_cons_self hl
    rw [trails, List.filter_cons, if_neg (by simpa using hl), List.filter_append, hnone]
    exact ihafter

/-- Dropping structures by their path and first line cuts them out. -/
theorem cut_without {drops : List String → Text → Bool}
    (hdrops : ∀ path l, drops path l = true → P l) (path : List String) (o : Outline) :
    Cut P o (o.without drops path) := by
  induction o generalizing path with
  | empty => exact .empty
  | entry l below after ihbelow ihafter =>
    rw [without]
    split
    · rename_i hdrop
      exact .drop (hdrops _ l hdrop) (ihafter path)
    · exact .keep l (ihbelow _) (ihafter path)

end Cut

section Trails
variable {drops : List String → Text → Bool} {path : List String} {o : Outline}

theorem ne_nil_of_mem_trails {ls : List Text} (hls : ls ∈ o.trails) : ls ≠ [] := by
  induction o with
  | empty => cases hls
  | entry l below after _ ihafter =>
    rw [trails, List.mem_cons, List.mem_append] at hls
    rcases hls with rfl | hls | hls
    · exact List.cons_ne_nil l []
    · obtain ⟨ms, _, rfl⟩ := List.mem_map.mp hls
      exact List.cons_ne_nil l ms
    · exact ihafter hls

/-- The lines of an outline are the last ones of its trails. -/
theorem filterMap_getLast?_trails (o : Outline) : o.trails.filterMap List.getLast? = o.lines := by
  induction o with
  | empty => rfl
  | entry l below after ihbelow ihafter =>
    have hinside : (below.trails.map (l :: ·)).filterMap List.getLast? =
        below.trails.filterMap List.getLast? := by
      rw [List.filterMap_map]
      refine List.filterMap_congr fun ls hls => ?_
      exact List.getLast?_cons_of_ne_nil (ne_nil_of_mem_trails hls)
    rw [trails, lines, List.filterMap_cons, List.filterMap_append, hinside, ihbelow, ihafter]
    rfl

/-- Whether a line is cut out with the structures that satisfy a test: it begins one, or a line
above it does.  The lines down to it are given, and the tags of those above all of them. -/
def cutsOut (drops : List String → Text → Bool) (path : List String) : List Text → Bool
  | [] => false
  | l :: ls =>
    drops (path ++ [Line.tagOf l]) l || cutsOut drops (path ++ [Line.tagOf l]) ls

/-- A line that begins such a structure is cut out. -/
theorem cutsOut_of_drops {ls : List Text} {l : Text} (hlast : ls.getLast? = some l)
    (hdrops : drops (path ++ ls.map Line.tagOf) l = true) : cutsOut drops path ls = true := by
  induction ls generalizing path with
  | nil => cases hlast
  | cons m ms ih =>
    rw [cutsOut, Bool.or_eq_true]
    by_cases hms : ms = []
    · obtain rfl := hms
      obtain rfl := Option.some.inj hlast
      exact .inl hdrops
    · rw [List.getLast?_cons_of_ne_nil hms] at hlast
      refine .inr (ih hlast ?_)
      rwa [List.append_assoc]

/-- The lines that are left are those that are not cut out. -/
theorem trails_without (drops : List String → Text → Bool) (path : List String) (o : Outline) :
    (o.without drops path).trails = o.trails.filter fun ls => !cutsOut drops path ls := by
  induction o generalizing path with
  | empty => rfl
  | entry l below after ihbelow ihafter =>
    rw [without, trails, List.filter_cons, List.filter_append, List.filter_map, ← ihafter]
    cases hdrops : drops (path ++ [Line.tagOf l]) l with
    | true =>
      have hall : ∀ ls : List Text, cutsOut drops path (l :: ls) = true := by
        intro ls
        rw [cutsOut, hdrops, Bool.true_or]
      simp [hall, Function.comp_def]
    | false =>
      have hinside : ∀ ls : List Text,
          cutsOut drops path (l :: ls) = cutsOut drops (path ++ [Line.tagOf l]) ls := by
        intro ls
        rw [cutsOut, hdrops, Bool.false_or]
      have hself : cutsOut drops path [l] = false := hinside []
      rw [if_neg Bool.false_ne_true, trails, ihbelow]
      simp only [hself, hinside, Function.comp_def, Bool.not_false, if_true]

end Trails

end Outline

/-- A record as a filter writes it, every line with its newline. -/
def Record.written (r : Record) : Text := r.lines.flatMap fun l => l ++ ['\n']

theorem Record.written_eq (r : Record) : r.written = r.head ++ '\n' :: r.below.written := by
  rw [written, lines, List.flatMap_cons, Outline.written]
  simp

/-! ## Steps that succeed -/

/-- A step that succeeds with a value and leaves the reference graph as it is. -/
def Yields {α : Type} (g : Graph) (m : RunM α) (v : α) : Prop :=
  ∀ s : Run, s.graph = g → ∃ s', m.run s = (.ok v, s') ∧ s'.graph = g

section Yields
variable {α β : Type} {g : Graph}

theorem Yields.pure (v : α) : Yields g (pure v) v := fun s hs => ⟨s, rfl, hs⟩

theorem Yields.bind {m : RunM α} {f : α → RunM β} {v : α} {w : β} (hm : Yields g m v)
    (hf : Yields g (f v) w) : Yields g (m >>= f) w := by
  intro s hs
  obtain ⟨s', hrun, hs'⟩ := hm s hs
  rw [RunM.run_bind_of_ok hrun]
  exact hf s' hs'

end Yields

namespace Application
variable {a : Application} {g : Graph} {path : List String} {t : Text}

theorem yields_convert {hook : Hook} (hhook : a.filter.hook = some hook) {pattern : String}
    {v : Text} (h : hook pattern t a.params g = .ok (v, g)) :
    Yields g (a.convert pattern t) v := by
  intro s hs
  refine ⟨{ s with conversions := s.conversions ++ [⟨a.filter.name, pattern, t⟩] }, ?_, hs⟩
  unfold convert
  rw [hhook]
  simp only [RunM.run_bind, RunM.run_modify, RunM.run_get]
  rw [hs, h]
  subst hs
  rfl

/-- A structure stays as it is if no operations are due. -/
theorem yields_finish_of_due?_eq_none (hdue : a.due? path = none) :
    Yields g
      (a.finish path (firstMatch a.rules.patterns path.dropLast)
        (firstMatch a.rules.patterns path) t) t := by
  have hpure : Yields g (pure t) t := Yields.pure t
  unfold due? acts at hdue
  unfold finish
  cases hfound : firstMatch a.rules.patterns path with
  | none => exact hpure
  | some i =>
    rw [hfound] at hdue
    dsimp only at hdue ⊢
    split
    · exact hpure
    · rename_i hne
      cases hrule : a.rules.rules[i]? with
      | none => exact hpure
      | some rule =>
        dsimp only
        split
        · exact hpure
        · rename_i hops
          rw [if_pos ⟨Ne.symm hne, by simpa [hrule] using hops⟩] at hdue
          cases hdue

/-- The operations of a rule are carried out if they are due. -/
theorem yields_finish_of_due? {v : Text} {i : Nat} {rule : ReadyRule}
    (hdue : a.due? path = some ⟨path, i⟩) (hrule : a.rules.rules[i]? = some rule)
    (hops : Yields g (a.runOps rule.pattern.text rule.ops t) v) :
    Yields g
      (a.finish path (firstMatch a.rules.patterns path.dropLast)
        (firstMatch a.rules.patterns path) t) v := by
  obtain ⟨_, hfound, habove, hacts⟩ := (a.due?_eq_some).mp hdue
  dsimp only at hfound habove hacts
  have hnonempty : ¬rule.ops.isEmpty = true := by
    simpa [acts, hrule] using hacts
  rw [hfound, finish, if_neg (Ne.symm habove), hrule]
  dsimp only
  rw [if_neg hnonempty]
  have hlog : Yields g
      (modify fun s => { s with treatments := s.treatments ++ [⟨path, i⟩] } : RunM PUnit) ⟨⟩ :=
    fun s hs => ⟨_, rfl, hs⟩
  exact hlog.bind hops

end Application

/-! ## The rule that decides on a path -/

/-- Without excluding patterns the first one that matches decides. -/
theorem firstMatch_eq_findIdx? {ps : List Pattern} (hps : ∀ p ∈ ps, p.excludes = false)
    (path : List String) : firstMatch ps path = ps.findIdx? fun p => p.admits path := by
  induction ps with
  | nil => rfl
  | cons p ps ih =>
    rw [firstMatch, List.findIdx?_cons, hps p List.mem_cons_self,
      ih fun q hq => hps q (List.mem_cons_of_mem _ hq)]
    cases p.admits path <;> rfl

/-- Whether the tags of a pattern agree with those of a path one by one. -/
def tagsAgree : (pattern path : List String) → Bool
  | [], [] => true
  | p :: ps, t :: ts => (p == wildcard || p == t) && tagsAgree ps ts
  | _, _ => false

/-- A pattern that does not end in a wildcard matches a path tag by tag. -/
theorem matchTags_eq_tagsAgree {pattern path : List String} (hpattern : pattern ≠ [])
    (hlast : pattern.getLast? ≠ some wildcard) (hpath : wildcard ∉ path) :
    matchTags pattern path = tagsAgree pattern path := by
  fun_induction matchTags pattern path with
  | case1 => exact absurd rfl hpattern
  | case2 p =>
    cases p with
    | nil => exact absurd rfl hpattern
    | cons => rfl
  | case3 p t => rw [tagsAgree, tagsAgree, Bool.and_true]
  | case4 p =>
    have hp : (p == wildcard) = false := beq_false_of_ne fun h => hlast (congrArg some h)
    simp [tagsAgree, hp]
  | case5 p q ps t =>
    have ht : (t == wildcard) = false :=
      beq_false_of_ne fun h => hpath (h ▸ List.mem_singleton_self t)
    simp [tagsAgree, ht]
  | case6 p q ps t u ts ih =>
    rw [List.getLast?_cons_cons] at hlast
    rw [tagsAgree, ih (by simp) hlast fun hmem => hpath (List.mem_cons_of_mem _ hmem)]

theorem length_eq_of_tagsAgree {pattern path : List String} (h : tagsAgree pattern path = true) :
    pattern.length = path.length := by
  fun_induction tagsAgree pattern path with
  | case1 => rfl
  | case2 p ps t ts ih =>
    rw [Bool.and_eq_true] at h
    rw [List.length_cons, List.length_cons, ih h.2]
  | case3 => cases h

/-- A pattern that does not end in a wildcard matches paths of one length only. -/
theorem length_eq_of_matchTags {pattern path : List String} (h : matchTags pattern path = true)
    (hlast : pattern.getLast? ≠ some wildcard) (hpath : wildcard ∉ path) :
    pattern.length = path.length := by
  have hpattern : pattern ≠ [] := by
    rintro rfl
    cases h
  rw [matchTags_eq_tagsAgree hpattern hlast hpath] at h
  exact length_eq_of_tagsAgree h

namespace Line

theorem isTagChar_of_ofBody? {level : Nat} {xref : Option String} {t : Text} {line : Line}
    (h : ofBody? level xref t = some line) : ∀ c ∈ line.tag.toList, isTagChar c = true := by
  unfold ofBody? takeTag? at h
  split at h
  · rename_i tag rest htag
    dsimp only at htag
    split at htag
    · cases htag
    · obtain ⟨rfl, _⟩ := Prod.mk.inj (Option.some.inj htag)
      split at h
      · cases h
      · rw [← Option.some.inj h]
        intro c hc
        rw [String.toList_ofList] at hc
        exact List.mem_takeWhile_imp hc
  · cases h

/-- A tag is no wildcard. -/
theorem tagOf_ne_wildcard {level : Nat} {l : Text} (hl : isLegible level l = true) :
    tagOf l ≠ wildcard := by
  obtain ⟨line, hline, _⟩ := exists_of_isLegible hl
  rw [tagOf_of_ofLine? hline]
  intro htag
  have hchars : ∀ c ∈ line.tag.toList, isTagChar c = true := by
    unfold ofLine? at hline
    split at hline
    · split at hline
      · exact isTagChar_of_ofBody? hline
      · exact isTagChar_of_ofBody? hline
    · cases hline
  rw [htag] at hchars
  exact absurd (hchars '*' (by decide)) (by decide)

end Line

namespace Application
variable {a : Application} {g : Graph} {path : List String}

/-- A filter whose rules exclude nothing and decide on every path.  Operations are asked for by
patterns that do not end in a wildcard. -/
structure Decisive (a : Application) : Prop where
  keeps : ∀ r ∈ a.rules.rules, r.pattern.excludes = false
  decides : ∀ path, path ≠ [] → ∃ r ∈ a.rules.rules, r.pattern.admits path = true
  closed : ∀ r ∈ a.rules.rules, r.ops ≠ [] → r.pattern.tags.getLast? ≠ some wildcard

/-- A filter whose rules exclude nothing, decide on every path, and carry out at most a
conversion, which is asked for by patterns that do not end in a wildcard. -/
structure OnlyConverts (a : Application) : Prop where
  keeps : ∀ r ∈ a.rules.rules, r.pattern.excludes = false
  decides : ∀ path, path ≠ [] → ∃ r ∈ a.rules.rules, r.pattern.admits path = true
  ops : ∀ r ∈ a.rules.rules, r.ops = [] ∨
    r.ops = [.convert] ∧ r.pattern.tags.getLast? ≠ some wildcard

theorem OnlyConverts.decisive (ha : a.OnlyConverts) : a.Decisive where
  keeps := ha.keeps
  decides := ha.decides
  closed r hr hops := (ha.ops r hr).elim (fun h => absurd h hops) And.right

/-- The rule that decides on a path. -/
def ruleAt (a : Application) (path : List String) : Option ReadyRule :=
  a.rules.rules.find? fun r => r.pattern.admits path

theorem Decisive.firstMatch_eq (ha : a.Decisive) (path : List String) :
    firstMatch a.rules.patterns path = a.rules.rules.findIdx? fun r => r.pattern.admits path := by
  rw [firstMatch_eq_findIdx?, ReadyRules.patterns, List.findIdx?_map]
  · rfl
  · intro p hp
    obtain ⟨r, hr, rfl⟩ := List.mem_map.mp hp
    exact ha.keeps r hr

theorem Decisive.ruleAt_eq (ha : a.Decisive) (path : List String) :
    a.ruleAt path = (firstMatch a.rules.patterns path).bind (a.rules.rules[·]?) := by
  rw [ha.firstMatch_eq, ruleAt, List.find?_eq_bind_findIdx?_getElem?]

/-- Some rule decides on every path. -/
theorem Decisive.exists_rule (ha : a.Decisive) (hpath : path ≠ []) :
    ∃ i rule, firstMatch a.rules.patterns path = some i ∧ a.rules.rules[i]? = some rule ∧
      a.ruleAt path = some rule := by
  obtain ⟨r, hr, hadmits⟩ := ha.decides path hpath
  cases hi : firstMatch a.rules.patterns path with
  | none =>
    rw [ha.firstMatch_eq] at hi
    have hnone := List.findIdx?_eq_none_iff.mp hi r hr
    rw [hadmits] at hnone
    cases hnone
  | some i =>
    have hrule := ha.ruleAt_eq path
    rw [hi, Option.bind_some] at hrule
    rw [ha.firstMatch_eq] at hi
    obtain ⟨hlt, _⟩ := List.findIdx?_eq_some_iff_getElem.mp hi
    rw [List.getElem?_eq_getElem hlt] at hrule
    exact ⟨i, _, rfl, List.getElem?_eq_getElem hlt, hrule⟩

theorem Decisive.admits_of_firstMatch (ha : a.Decisive) {i : Nat} {rule : ReadyRule}
    (hi : firstMatch a.rules.patterns path = some i) (hrule : a.rules.rules[i]? = some rule) :
    rule.pattern.admits path = true := by
  rw [ha.firstMatch_eq] at hi
  obtain ⟨hlt, hadmits, _⟩ := List.findIdx?_eq_some_iff_getElem.mp hi
  rw [List.getElem?_eq_getElem hlt] at hrule
  rwa [← Option.some.inj hrule]

/-- A rule with operations does not decide on the line above as well. -/
theorem Decisive.ne_above (ha : a.Decisive) (hpath : path ≠ []) (hwildcard : wildcard ∉ path)
    {i : Nat} {rule : ReadyRule} (hi : firstMatch a.rules.patterns path = some i)
    (hrule : a.rules.rules[i]? = some rule) (hops : rule.ops ≠ []) :
    some i ≠ firstMatch a.rules.patterns path.dropLast := by
  intro habove
  have hlast := ha.closed rule (List.mem_of_getElem? hrule) hops
  -- the pattern would match paths of two lengths
  have hadmits := ha.admits_of_firstMatch hi hrule
  have hadmits' := ha.admits_of_firstMatch habove.symm hrule
  have hlength := length_eq_of_matchTags hadmits hlast hwildcard
  have hlength' := length_eq_of_matchTags hadmits' hlast
    fun hmem => hwildcard ((List.dropLast_sublist path).subset hmem)
  rw [List.length_dropLast] at hlength'
  have := List.length_pos_of_ne_nil hpath
  omega

/-- What is left of a structure is what the operations of the rule that decides on its path
make of it. -/
theorem Decisive.yields_finish (ha : a.Decisive) (hpath : path ≠ []) (hwildcard : wildcard ∉ path)
    {t v : Text}
    (hops : ∀ rule, a.ruleAt path = some rule →
      Yields g (a.runOps rule.pattern.text rule.ops t) v) :
    Yields g
      (a.finish path (firstMatch a.rules.patterns path.dropLast)
        (firstMatch a.rules.patterns path) t) v := by
  obtain ⟨i, rule, hi, hrule, hat⟩ := ha.exists_rule hpath
  by_cases hidle : rule.ops = []
  · have hdue : a.due? path = none := by
      rw [due?, hi]
      exact if_neg fun h => by simp [acts, hrule, hidle] at h
    intro s hs
    obtain ⟨s', hrun, hs'⟩ := yields_finish_of_due?_eq_none hdue s hs
    have hpure := hops rule hat s hs
    rw [hidle] at hpure
    obtain ⟨s'', hrun', _⟩ := hpure
    have hv : t = v := Except.ok.inj (congrArg Prod.fst hrun')
    exact ⟨s', hv ▸ hrun, hs'⟩
  · have hdue : a.due? path = some ⟨path, i⟩ :=
      a.due?_eq_some.mpr ⟨rfl, hi, (ha.ne_above hpath hwildcard hi hrule hidle).symm,
        by simp [acts, hrule, hidle]⟩
    exact yields_finish_of_due? hdue hrule (hops rule hat)

/-- What is left of a structure is what the hook gives back if the rule that decides on
its path asks for a conversion, and otherwise the structure. -/
theorem OnlyConverts.yields_finish (ha : a.OnlyConverts) (hpath : path ≠ [])
    (hwildcard : wildcard ∉ path) {t v : Text}
    (hconvert : ∀ rule, a.ruleAt path = some rule → rule.ops = [.convert] →
      Yields g (a.convert rule.pattern.text t) v)
    (hidle : ∀ rule, a.ruleAt path = some rule → rule.ops = [] → v = t) :
    Yields g
      (a.finish path (firstMatch a.rules.patterns path.dropLast)
        (firstMatch a.rules.patterns path) t) v := by
  refine ha.decisive.yields_finish hpath hwildcard fun rule hat => ?_
  rcases ha.ops rule (List.mem_of_find?_eq_some hat) with hops | ⟨hops, _⟩
  · obtain rfl := hidle rule hat hops
    rw [hops]
    exact Yields.pure v
  · rw [hops]
    exact (hconvert rule hat hops).bind (Yields.pure v)

/-! ## From lines to transmissions -/

/-- Whether a filter drops a structure by its path and first line: what it does at the end
of a structure is to drop it or to leave it as it is. -/
def DropsAt (a : Application) (g : Graph) (drops : List String → Text → Bool) : Prop :=
  ∀ (level : Nat) (path : List String) (l t : Text), 0 < level →
    Line.isLegible level l = true → path ≠ [] → wildcard ∉ path ++ [Line.tagOf l] →
    Yields g
      (a.finish (path ++ [Line.tagOf l]) (firstMatch a.rules.patterns path)
        (firstMatch a.rules.patterns (path ++ [Line.tagOf l])) (l ++ '\n' :: t))
      (if drops (path ++ [Line.tagOf l]) l then [] else l ++ '\n' :: t)

/-- Every path leads to a rule, so that no line is dropped by the rules themselves. -/
def KeepsLines (a : Application) : Prop :=
  ∀ path : List String, path ≠ [] → (firstMatch a.rules.patterns path).isSome = true

theorem Decisive.keepsLines (ha : a.Decisive) : a.KeepsLines := by
  intro path hpath
  obtain ⟨i, _, hi, _⟩ := ha.exists_rule hpath
  rw [hi]
  rfl

theorem KeepsLines.yields_entryRemnant (ha : a.KeepsLines) {l inner v : Text}
    {below : List String → Option Nat → RunM Text}
    (hbelow : Yields g
      (below (path ++ [Line.tagOf l]) (firstMatch a.rules.patterns (path ++ [Line.tagOf l]))) inner)
    (hfinish : Yields g
      (a.finish (path ++ [Line.tagOf l]) (firstMatch a.rules.patterns path)
        (firstMatch a.rules.patterns (path ++ [Line.tagOf l])) (l ++ '\n' :: inner)) v) :
    Yields g (a.entryRemnant path (firstMatch a.rules.patterns path) l below) v := by
  have hfound := ha (path ++ [Line.tagOf l]) (by simp)
  refine hbelow.bind ?_
  rw [if_pos hfound]
  simpa using hfinish

/-- **What is left of an outline** are its structures without those that are dropped. -/
theorem KeepsLines.yields_outlineRemnant (ha : a.KeepsLines)
    {drops : List String → Text → Bool} (hdrops : a.DropsAt g drops) {level : Nat} {o : Outline}
    (hlevel : 0 < level) (ho : o.isLegible level = true) (hpath : path ≠ [])
    (hwildcard : wildcard ∉ path) :
    Yields g (a.outlineRemnant path (firstMatch a.rules.patterns path) o)
      (o.without drops path).written := by
  induction o generalizing level path with
  | empty => exact Yields.pure []
  | entry l below after ihbelow ihafter =>
    obtain ⟨hl, hbelow, hafter⟩ := Outline.isLegible_entry.mp ho
    have hwildcard' : wildcard ∉ path ++ [Line.tagOf l] := by
      rw [List.mem_append, List.mem_singleton, not_or]
      exact ⟨hwildcard, (Line.tagOf_ne_wildcard hl).symm⟩
    have hne : path ++ [Line.tagOf l] ≠ [] := by simp
    -- below a line that is dropped the hook is asked as well, but what it says is lost
    have hinner := ihbelow (Nat.succ_pos level) hbelow hne hwildcard'
    have hentry : Yields g
        (a.entryRemnant path (firstMatch a.rules.patterns path) l fun path found =>
          a.outlineRemnant path found below) _ :=
      ha.yields_entryRemnant hinner (hdrops level path l _ hlevel hl hpath hwildcard')
    have hothers := ihafter hlevel hafter hpath hwildcard
    refine hentry.bind (hothers.bind ?_)
    rw [Outline.without]
    split
    · exact Yields.pure _
    · rw [Outline.written_entry]
      exact Yields.pure _

/-- Sifting the records of a transmission one after the other. -/
theorem run_mapM_sift {bs : List Text} {rs : List Record}
    (hbs : List.Forall₂ (fun b (r : Record) => ∃ newlines, b = r.text newlines) bs rs)
    (hlegible : ∀ r ∈ rs, r.isLegible = true) {f : Record → Text}
    (hyields : ∀ r ∈ rs, Yields g (a.recordRemnant r) (f r)) {s : Run} (hs : s.graph = g)
    (hmemo : s.memo.Faithful a.answer) :
    ∃ s', (bs.mapM (a.sift 0 [] none)).run s = (.ok (rs.map f), s') := by
  induction hbs generalizing s with
  | nil => exact ⟨s, rfl⟩
  | @cons b r bs rs hb _ ih =>
    obtain ⟨newlines, rfl⟩ := hb
    obtain ⟨hmemo', hrun⟩ :=
      follows_sift_record (hlegible r List.mem_cons_self) newlines s hmemo
    obtain ⟨s', hremnant, hgraph⟩ := hyields r List.mem_cons_self s.forget hs
    -- the text is sifted like the record, and the memo stays faithful
    have hsift := hremnant.symm.trans hrun
    obtain ⟨hresult, hforget⟩ := Prod.mk.inj hsift
    have hgraph' : ((a.sift 0 [] none (r.text newlines)).run s).2.graph = g :=
      (congrArg Run.graph hforget).symm.trans hgraph
    obtain ⟨s'', hrest⟩ := ih (fun q hq => hlegible q (List.mem_cons_of_mem _ hq))
      (fun q hq => hyields q (List.mem_cons_of_mem _ hq)) hgraph' hmemo'
    refine ⟨s'', ?_⟩
    rw [List.mapM_cons, RunM.run_bind_of_ok (Prod.ext hresult.symm rfl),
      RunM.run_bind_of_ok hrest]
    rfl

/-- **What is left of some records** is what is left of each of them, in their order;
records of which nothing is left are left out. -/
theorem run_of_delivers {ts : List Text} {rs : List Record} (hts : Delivers ts rs)
    (hgraph : a.references ts = .ok g) {f : Record → Text}
    (hyields : ∀ r ∈ rs, Yields g (a.recordRemnant r) (f r)) (s : Run) :
    ∃ trace s', (a.run ts).run s =
      (.ok ((rs.map f).filter fun t => !t.isEmpty, trace), s') := by
  obtain ⟨s', hrun⟩ := run_mapM_sift hts.blocks hts.legible hyields
    (s := { s with graph := g, memo := {} }) rfl (Memo.faithful_empty a.answer)
  obtain ⟨trace, hresult⟩ := run_of_mapM_ok hgraph hrun
  exact ⟨trace, s', hresult⟩

/-- What is left of a transmission is what is left of its records. -/
theorem run_of_yields (d : Transmission) {ts : List Text}
    (hts : ts.flatMap recordBlocks = recordBlocks d.text) (hgraph : a.references ts = .ok g)
    {f : Record → Text}
    (hyields : ∀ r ∈ records d.text, Yields g (a.recordRemnant r) (f r)) (s : Run) :
    ∃ trace s', (a.run ts).run s =
      (.ok (((records d.text).map f).filter fun t => !t.isEmpty, trace), s') :=
  run_of_delivers (d.delivers hts) hgraph hyields s

end Application
end Gedcom
