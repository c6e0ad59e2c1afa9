import Gedcom.Proofs.ExplicitForm
import Gedcom.Proofs.GroupedSearches

/-!
# The groups of a search

A search numbers the groups whose texts are kept as they open, from 1 on; number 0 is the whole
match.  `Token.groupNames` has the name of each group at its number.  While an expression is put
together, parts are moved, copied and left out, but every group that is still there has the
name and number under which it opened (`Builder.Numbered`, kept by every token); so nothing in
an expression goes by a number or name that the search does not give (`numbered_ofText`).

A reference of a replacement leads to the group with a number if the search opens that group,
and if the text of the group is what takes the place of the reference (`GroupRef.LeadsTo`).
When a replacement is accepted for an expression, each of its references leads to a group, and
to the same group when the search is a group of its own (`exists_leadsTo`).
-/
namespace Gedcom.Regex

/-! ## Groups of a tree -/

namespace Node

theorem flatMap_groups_items (n : Node) : n.items.flatMap groups = n.groups := by
  induction n with
  | seq a b iha ihb => rw [items, List.flatMap_append, iha, ihb, groups]
  | empty => rfl
  | _ => exact List.append_nil _

theorem flatMap_groups_branches (n : Node) : n.branches.flatMap groups = n.groups := by
  induction n with
  | alt a b iha ihb => rw [branches, List.flatMap_append, iha, ihb, groups]
  | _ => exact List.append_nil _

theorem flatMap_groups_flatMap_branches (ns : List Node) :
    (ns.flatMap branches).flatMap groups = ns.flatMap groups := by
  rw [List.flatMap_assoc]
  exact congrArg (ns.flatMap ·) (funext flatMap_groups_branches)

theorem groups_ofItems (ns : List Node) : (ofItems ns).groups = ns.flatMap groups := by
  fun_induction ofItems ns with
  | case1 => rfl
  | case2 n => exact (List.append_nil _).symm
  | case3 n m ns ih => rw [groups, ih]; rfl

theorem groups_ofBranches (ns : List Node) : (ofBranches ns).groups = ns.flatMap groups := by
  fun_induction ofBranches ns with
  | case1 => rfl
  | case2 n => exact (List.append_nil _).symm
  | case3 n m ns ih => rw [groups, ih]; rfl

theorem groups_sequence (ns : List Node) : (sequence ns).groups = ns.flatMap groups := by
  rw [sequence, groups_ofItems, List.flatMap_assoc]
  exact congrArg (ns.flatMap ·) (funext flatMap_groups_items)

/-- Characters hold no groups. -/
theorem groups_eq_nil {n : Node} (h : n.isLiteral = true ∨ n.isClass = true) : n.groups = [] := by
  cases n with
  | chars _ _ => rfl
  | _ => rcases h with h | h <;> cases h

theorem groups_alternation (ns : List Node) : (alternation ns).groups = ns.flatMap groups := by
  rw [← flatMap_groups_flatMap_branches, alternation]
  split
  · next hset =>
    simp only [Bool.and_eq_true, Bool.or_eq_true, List.all_eq_true] at hset
    symm
    refine List.flatMap_eq_nil_iff.mpr fun n hn => groups_eq_nil ?_
    exact hset.2.imp (fun h => h n hn) (fun h => h n hn)
  · exact groups_ofBranches _

theorem commonStart_isPrefix (ns ms : List Node) : commonStart ns ms <+: ns := by
  fun_induction commonStart ns ms with
  | case1 ns n ms ih => exact (List.prefix_cons_inj n).mpr ih
  | case2 | case3 => exact List.nil_prefix

theorem foldl_commonStart_isPrefix (ns : List Node) (nss : List (List Node)) :
    nss.foldl commonStart ns <+: ns := by
  induction nss generalizing ns with
  | nil => exact List.prefix_rfl
  | cons ms nss ih => exact (ih _).trans (commonStart_isPrefix ns ms)

/-- What branches share stands in one of them. -/
theorem exists_of_mem_sharedStart {n : Node} {bs : List Node} (h : n ∈ sharedStart bs) :
    ∃ b ∈ bs, n ∈ b.items := by
  cases bs with
  | nil => cases h
  | cons b bs =>
    rw [sharedStart, List.map_cons] at h
    dsimp only at h
    split at h
    · exact ⟨b, List.mem_cons_self, (foldl_commonStart_isPrefix _ _).subset h⟩
    · cases h

theorem groups_subset_of_mem_items {n m : Node} (h : m ∈ n.items) : m.groups ⊆ n.groups := by
  intro x hx
  rw [← flatMap_groups_items n]
  exact List.mem_flatMap.mpr ⟨m, h, hx⟩

/-- A choice has groups of its branches only. -/
theorem groups_choice_subset (ns : List Node) : (choice ns).groups ⊆ ns.flatMap groups := by
  unfold choice
  split
  · next n => rw [List.flatMap_singleton]; exact List.Subset.refl _
  · rw [← flatMap_groups_flatMap_branches]
    generalize ns.flatMap branches = bs
    dsimp only
    split
    · rw [groups_alternation]
      exact List.Subset.refl _
    · intro x hx
      rw [groups_sequence, List.flatMap_append, List.flatMap_singleton, groups_alternation,
        List.mem_append, List.flatMap_map, List.mem_flatMap, List.mem_flatMap] at hx
      rw [List.mem_flatMap]
      rcases hx with ⟨n, hn, hx⟩ | ⟨b, hb, hx⟩
      · obtain ⟨b, hb, hitem⟩ := exists_of_mem_sharedStart hn
        exact ⟨b, hb, groups_subset_of_mem_items hitem hx⟩
      · rw [groups_ofItems, List.mem_flatMap] at hx
        obtain ⟨n, hn, hx⟩ := hx
        exact ⟨b, hb, groups_subset_of_mem_items (List.mem_of_mem_drop hn) hx⟩

theorem groups_repetition_subset (min : Nat) (max : Option Nat) (greedy : Bool) (n : Node) :
    (repetition min max greedy n).groups ⊆ n.groups := by
  unfold repetition
  generalize (if n.onlyEmpty then Nat.min min 1 else min) = least
  generalize (if n.onlyEmpty then some ((max.getD 1).min 1) else max) = most
  dsimp only
  split_ifs
  · exact List.nil_subset _
  · exact List.Subset.refl _
  · exact List.Subset.refl _

end Node

/-! ## Groups of an expression in progress -/

/-- The groups of some parts. -/
def partGroups (ps : List Part) : List (Nat × Option String) := ps.flatMap (·.node.groups)

namespace OpenGroup

/-- The groups inside of a group in progress. -/
def groups (g : OpenGroup) : List (Nat × Option String) := partGroups (g.parts ++ g.branches)

theorem groups_branch_subset (g : OpenGroup) : g.branch.node.groups ⊆ partGroups g.parts := by
  intro x hx
  rw [branch, Node.groups_sequence, List.mem_flatMap] at hx
  obtain ⟨n, hn, hx⟩ := hx
  obtain ⟨p, hp, rfl⟩ := List.mem_map.mp hn
  exact List.mem_flatMap.mpr ⟨p, List.mem_reverse.mp hp, hx⟩

/-- What is finished of a group has no other groups than what is in progress. -/
theorem partGroups_branches_subset (g : OpenGroup) :
    partGroups (g.branch :: g.branches) ⊆ g.groups := by
  rw [groups, partGroups, partGroups, List.flatMap_cons, List.flatMap_append]
  exact List.append_subset.mpr
    ⟨List.subset_append_of_subset_left _ g.groups_branch_subset, List.subset_append_right _ _⟩

theorem groups_split_subset (g : OpenGroup) : g.split.groups ⊆ g.groups :=
  g.partGroups_branches_subset

theorem groups_whole_subset (g : OpenGroup) : g.whole.node.groups ⊆ g.groups := by
  refine List.Subset.trans ?_ g.partGroups_branches_subset
  intro x hx
  obtain ⟨n, hn, hx⟩ := List.mem_flatMap.mp (Node.groups_choice_subset _ hx)
  obtain ⟨p, hp, rfl⟩ := List.mem_map.mp hn
  exact List.mem_flatMap.mpr ⟨p, List.mem_reverse.mp hp, hx⟩

theorem groups_repeated?_subset {g g' : OpenGroup} {min : Nat} {max : Option Nat} {greedy : Bool}
    (h : g.repeated? min max greedy = some g') : g'.groups ⊆ g.groups := by
  unfold repeated? at h
  split at h
  · next p ps hparts =>
    split at h
    · obtain rfl := Option.some.inj h
      rw [groups, groups, hparts]
      exact List.append_subset.mpr
        ⟨List.subset_append_of_subset_left _ (Node.groups_repetition_subset _ _ _ _),
          List.subset_append_right _ _⟩
    · cases h
  · cases h

end OpenGroup

/-- The name of the group that a token opens, if the text of the group is kept. -/
def Token.kept? : Token → Option (Option String)
  | .openGroup name => some name
  | _ => none

/-- The names of the groups whose texts are kept, each at its number; number 0 is the whole
match. -/
def Token.groupNames (toks : List Token) : List (Option String) := none :: toks.filterMap kept?

namespace Builder
variable {b b' : Builder} {tok : Token} {toks : List Token} {names : List (Option String)}

/-- The groups of an expression in progress, those that are still open included. -/
def groups (b : Builder) : List (Nat × Option String) :=
  b.inner.groups ++ b.outer.flatMap fun g => g.1.toList ++ g.2.groups

/-- **A token adds no group** but the one that it opens, under the next number. -/
theorem groups_of_step? (h : b.step? tok = some b') :
    b'.opened = b.opened + tok.kept?.toList.length ∧
      ∀ g ∈ b'.groups, g ∈ b.groups ∨ ∃ name, tok.kept? = some name ∧ g = (b.opened + 1, name) := by
  -- most tokens change the innermost group that is open, and nothing around it
  have inside : ∀ {g : OpenGroup}, g.groups ⊆ b.inner.groups →
      ∀ x ∈ groups { b with inner := g }, x ∈ b.groups := fun hg x hx =>
    List.mem_append.mpr ((List.mem_append.mp hx).imp (fun h => hg h) id)
  cases tok with
  | chars _ _ _ | look _ | flags =>
    cases h
    exact ⟨rfl, fun x hx => .inl (inside (List.Subset.refl _) x hx)⟩
  | bar =>
    cases h
    exact ⟨rfl, fun x hx => .inl (inside b.inner.groups_split_subset x hx)⟩
  | times least most greedy =>
    obtain ⟨g, hg, rfl⟩ := Option.map_eq_some_iff.mp h
    exact ⟨rfl, fun x hx => .inl (inside (OpenGroup.groups_repeated?_subset hg) x hx)⟩
  | openPlain =>
    cases h
    exact ⟨rfl, fun x hx => .inl hx⟩
  | openGroup name =>
    rw [step?] at h
    split at h
    · cases h
    · cases h
      exact ⟨rfl, fun x hx => (List.mem_cons.mp hx).symm.imp id fun hx => ⟨name, rfl, hx⟩⟩
  | close =>
    rw [step?] at h
    split at h
    · cases h
    · next kept g outer houter =>
      cases h
      refine ⟨rfl, fun x hx => .inl ?_⟩
      rw [groups, houter, List.flatMap_cons]
      simp only [List.mem_append]
      rcases List.mem_append.mp hx with hx | houter
      · rcases List.mem_append.mp hx with hnode | hg
        · cases kept with
          | none => exact .inl (b.inner.groups_whole_subset hnode)
          | some kept =>
            rcases List.mem_cons.mp hnode with rfl | hinner
            · exact .inr (.inl (.inl List.mem_cons_self))
            · exact .inl (b.inner.groups_whole_subset hinner)
        · exact .inr (.inl (.inr hg))
      · exact .inr (.inr houter)

/-- Whether the groups of an expression in progress have their names at their numbers. -/
structure Numbered (b : Builder) (names : List (Option String)) : Prop where
  opened : names.length = b.opened + 1
  name : ∀ g ∈ b.groups, names[g.1]? = some g.2

theorem Numbered.step (hb : b.Numbered names) (h : b.step? tok = some b') :
    b'.Numbered (names ++ tok.kept?.toList) := by
  obtain ⟨hopened, hgroups⟩ := groups_of_step? h
  refine ⟨by rw [List.length_append, hb.opened, hopened]; omega, fun g hg => ?_⟩
  rcases hgroups g hg with hold | ⟨name, hname, rfl⟩
  · obtain ⟨hlt, -⟩ := List.getElem?_eq_some_iff.mp (hb.name g hold)
    rw [List.getElem?_append_left hlt, hb.name g hold]
  · rw [← hb.opened, hname]
    exact List.getElem?_concat_length

theorem Numbered.run (hb : b.Numbered names) (h : toks.foldlM step? b = some b') :
    b'.Numbered (names ++ toks.filterMap Token.kept?) := by
  induction toks generalizing b names with
  | nil =>
    obtain rfl := Option.some.inj h
    rwa [List.filterMap_nil, List.append_nil]
  | cons tok toks ih =>
    rw [List.foldlM_cons] at h
    obtain ⟨b₁, hstep, hrest⟩ := Option.bind_eq_some_iff.mp h
    have hnames : (tok :: toks).filterMap Token.kept? =
        tok.kept?.toList ++ toks.filterMap Token.kept? := by
      rw [List.filterMap_cons]
      cases tok.kept? <;> rfl
    rw [hnames, ← List.append_assoc]
    exact ih (hb.step hstep) hrest

end Builder

/-! ## Groups of an expression -/

section Groups
variable {r : Regex} {names : List (Option String)}

/-- **Every group of an expression** has the name that the search gives to its number. -/
theorem numbered_ofText {t : Text} (h : ofText t = .ok r) :
    ∃ toks, Token.ofText? t = some toks ∧
      ∀ g ∈ r.node.groups, (Token.groupNames toks)[g.1]? = some g.2 := by
  obtain ⟨n, hn, -, rfl⟩ := ofText_eq_ok.mp h
  obtain ⟨toks, htoks, hn⟩ := Option.bind_eq_some_iff.mp hn
  obtain ⟨b, hb, hn⟩ := Option.bind_eq_some_iff.mp hn
  split_ifs at hn with hdone
  cases hn
  have hstart : ({} : Builder).Numbered [none] := ⟨rfl, nofun⟩
  exact ⟨toks, htoks, fun g hg =>
    (hstart.run hb).name g (List.mem_append_left _ (b.inner.groups_whole_subset hg))⟩

theorem groupCount_le (hne : names ≠ [])
    (h : ∀ g ∈ r.node.groups, names[g.1]? = some g.2) : r.groupCount ≤ names.length := by
  have hfold : ∀ (gs : List (Nat × Option String)) (n : Nat), n ≤ names.length →
      (∀ g ∈ gs, names[g.1]? = some g.2) →
      gs.foldl (fun n g => max n (g.1 + 1)) n ≤ names.length := by
    intro gs
    induction gs with
    | nil => exact fun n hn _ => hn
    | cons g gs ih =>
      intro n hn hgs
      obtain ⟨hg, hrest⟩ := List.forall_mem_cons.mp hgs
      obtain ⟨hlt, -⟩ := List.getElem?_eq_some_iff.mp hg
      exact ih _ (Nat.max_le.mpr ⟨hn, hlt⟩) hrest
  exact hfold _ 1 (List.length_pos_iff.mpr hne) h

/-- The number of the group that a reference stands for, if the expression has the group. -/
def GroupRef.number? (r : Regex) : GroupRef → Option Nat
  | .index n => if n < r.groupCount then some n else none
  | .name s => r.groupNamed? s

/-- Whether a reference names the group with a number, among groups with some names. -/
def GroupRef.Names (names : List (Option String)) (i : Nat) : GroupRef → Prop
  | .index n => n = i ∧ n < names.length
  | .name s => names[i]? = some (some s)

/-- Whether a reference leads to the group with a number: the search opens this group, and the
text of the group is what takes the place of the reference. -/
structure GroupRef.LeadsTo (g : GroupRef) (search : Text) (r : Regex) (i : Nat) : Prop where
  opens : ∃ toks, Token.ofText? search = some toks ∧ g.Names (Token.groupNames toks) i
  text : ∀ t m, Piece.text r t m (.group g) = m.group t i

namespace GroupRef
variable {g : GroupRef} {i : Nat}

theorem names_of_number? (hne : names ≠ []) (h : ∀ g ∈ r.node.groups, names[g.1]? = some g.2)
    (hi : g.number? r = some i) : g.Names names i := by
  cases g with
  | index n =>
    rw [number?] at hi
    split_ifs at hi with hn
    exact ⟨Option.some.inj hi, Nat.lt_of_lt_of_le hn (groupCount_le hne h)⟩
  | name s =>
    obtain ⟨g, hg, rfl⟩ := Option.map_eq_some_iff.mp hi
    have hname : g.2 = some s := by simpa using List.find?_some hg
    rw [Names, h g (List.mem_of_find?_eq_some hg), hname]

theorem text_of_number? (hi : g.number? r = some i) (t : Text) (m : Match) :
    Piece.text r t m (.group g) = m.group t i := by
  cases g with
  | index n =>
    rw [number?] at hi
    split_ifs at hi with hn
    rw [Piece.text, Option.some.inj hi]
  | name s =>
    have hname : r.groupNamed? s = some i := hi
    rw [Piece.text, hname]

theorem leadsTo_of_number? {search : Text} (h : Regex.ofText search = .ok r)
    (hi : g.number? r = some i) : g.LeadsTo search r i := by
  obtain ⟨toks, htoks, hnames⟩ := numbered_ofText h
  exact ⟨⟨toks, htoks, names_of_number? (List.cons_ne_nil _ _) hnames hi⟩, text_of_number? hi⟩

end GroupRef

/-! ## Replacements that are accepted -/

namespace Replacement
variable {replacement : String}

theorem hasGroup_eq (r : Regex) (ref : Text) :
    hasGroup r ref = ((GroupRef.ofText ref).number? r).isSome := by
  rw [hasGroup]
  cases GroupRef.ofText ref with
  | index n =>
    rw [GroupRef.number?]
    split_ifs with hn <;> simp [hn]
  | name s => rfl

/-- **What is accepted** are the replacements that leave no brace open and refer to groups of
the expression only. -/
theorem problem?_eq_none_iff :
    problem? r replacement = none ↔
      ∃ ps, Piece.Reads replacement.toList ps ∧
        ∀ g, .group g ∈ ps → ∃ i, g.number? r = some i := by
  rw [problem?, List.findSome?_eq_none_iff]
  constructor
  · intro h
    have hterminated : Terminated replacement.toList := by
      refine terminated_explicit.mp fun hopen => ?_
      exact absurd (h none hopen) nofun
    refine ⟨_, Piece.reads_written hterminated, fun g hg => ?_⟩
    obtain ⟨ref, href, rfl⟩ :=
      (mem_references_explicit (Piece.reads_written hterminated)).mp hg
    have hgroup : hasGroup r ref = true := by
      by_contra hnone
      have hproblem := h _ href
      dsimp only at hproblem
      rw [if_neg hnone] at hproblem
      cases hproblem
    rw [hasGroup_eq] at hgroup
    exact Option.isSome_iff_exists.mp hgroup
  · rintro ⟨ps, hps, hgroups⟩ ref href
    cases ref with
    | none => exact absurd href (terminated_explicit.mpr hps.terminated)
    | some ref =>
      have hgroup := hgroups _ ((mem_references_explicit hps).mpr ⟨ref, href, rfl⟩)
      rw [← Option.isSome_iff_exists, ← hasGroup_eq] at hgroup
      exact if_pos hgroup

/-- **The groups that an accepted replacement refers to** are groups of the search, and the same
ones if the search is a group of its own. -/
theorem exists_leadsTo {search : String} (h : searchRegex search = .ok r)
    (hproblem : problem? r replacement = none) :
    ∃ ps, Piece.Reads replacement.toList ps ∧ ∀ g, .group g ∈ ps →
      ∃ i, g.LeadsTo search.toList r i ∧
        ∀ r', searchRegex ("(?:" ++ search ++ ")") = .ok r' →
          r' = r ∧ g.LeadsTo ("(?:" ++ search ++ ")").toList r' i := by
  obtain ⟨ps, hps, hgroups⟩ := problem?_eq_none_iff.mp hproblem
  refine ⟨ps, hps, fun g hg => ?_⟩
  obtain ⟨i, hi⟩ := hgroups g hg
  refine ⟨i, GroupRef.leadsTo_of_number? (ofText_of_searchRegex h) hi, fun r' hr' => ?_⟩
  have hsame : r' = r := by
    have hgrouped := @RuleSet.searchRegex_delimit ⟨search, replacement⟩ r h
    rw [RuleSet.delimit, hr'] at hgrouped
    split_ifs at hgrouped
    exact Except.ok.inj hgrouped
  obtain rfl := hsame
  exact ⟨rfl, GroupRef.leadsTo_of_number? (ofText_of_searchRegex hr') hi⟩

/-- **The explicit form says what the replacement says.**  Unless a brace is left open, it has
dollar signs only in pairs and in front of references in braces, and whatever the groups of a
match are, it stands for the text that the replacement stands for when it is read rule by rule.
It is its own explicit form.  If the replacement is accepted for the expression of a search, each
of its references leads to a group of the search, and to the same group of the search in a group of
its own, if this is an expression. -/
theorem explicit_reads (replacement : String) :
    (IsExplicit (explicit replacement.toList) ↔ Terminated replacement.toList) ∧
      explicit (explicit replacement.toList) = explicit replacement.toList ∧
      (Terminated replacement.toList → ∃ ps, Piece.Reads replacement.toList ps ∧
        ∀ r t m, Piece.expand r t m (Piece.ofText (explicit replacement.toList)) =
          Piece.expand r t m ps) ∧
      ∀ search r, searchRegex search = .ok r → problem? r replacement = none →
        ∃ ps, Piece.Reads replacement.toList ps ∧ ∀ g, .group g ∈ ps →
          ∃ i, g.LeadsTo search.toList r i ∧
            ∀ r', searchRegex ("(?:" ++ search ++ ")") = .ok r' →
              r' = r ∧ g.LeadsTo ("(?:" ++ search ++ ")").toList r' i := by
  refine ⟨isExplicit_explicit_iff, explicit_explicit _, fun h => ?_, fun _ _ => exists_leadsTo⟩
  have hreads := Piece.reads_written h
  refine ⟨_, hreads, fun r t m => ?_⟩
  rw [(Piece.reads_iff.mp hreads).2]

/-- A letter stands behind the number of a group; and not every dollar sign is a reference. -/
def dated : Substitution := ⟨"([0-9]+) (?P<year>[0-9]+)", "$1st of ${year}: $$5 or $"⟩

theorem explicit_reads_dated :
    Terminated dated.replacement.toList ∧ IsExplicit (explicit dated.replacement.toList) ∧
      (∃ ps, Piece.Reads dated.replacement.toList ps ∧ ∀ r t m,
        Piece.expand r t m (Piece.ofText (explicit dated.replacement.toList)) =
          Piece.expand r t m ps) ∧
      ∃ r, searchRegex dated.search = .ok r ∧ problem? r dated.replacement = none ∧
        ∃ i, (GroupRef.name "year").LeadsTo dated.search.toList r i ∧
          ∀ r', searchRegex ("(?:" ++ dated.search ++ ")") = .ok r' → r' = r ∧
            (GroupRef.name "year").LeadsTo ("(?:" ++ dated.search ++ ")").toList r' i := by
  have hterminated : Terminated dated.replacement.toList := by decide +kernel
  have hyear : Piece.group (.name "year") ∈ Piece.written dated.replacement.toList := by
    decide +kernel
  have hregex : (searchRegex dated.search).toOption.any
      (fun r => (problem? r dated.replacement).isNone) = true := by decide +kernel
  obtain ⟨hexplicit, -, hreads, haccepted⟩ := explicit_reads dated.replacement
  obtain ⟨r, hr, hproblem⟩ := (Option.any_eq_true _ _).mp hregex
  replace hr := eq_ok_of_toOption hr
  replace hproblem := Option.isNone_iff_eq_none.mp hproblem
  obtain ⟨ps, hps, hgroups⟩ := haccepted _ r hr hproblem
  rw [hps.written_eq] at hyear
  exact ⟨hterminated, hexplicit.mpr hterminated, hreads hterminated, r, hr, hproblem,
    hgroups _ hyear⟩

end Replacement
end Groups
end Gedcom.Regex
