import Gedcom.Proofs.Compilation
import Gedcom.Proofs.GroupTokens

/-!
# Searches as groups of their own

A rule set is valid if its searches are regular expressions as they are written.  When it is made
ready to run, its macros are written out and every search is put into a group of its own, whose
text is not kept; and the expression of the group is built.

**An expression as a group of its own** (`ofText_grouped`) is the same expression, tree and
program included: a group that is not kept leaves no trace in a tree (`OpenGroup.flat_whole`).
But it need not be an expression at all.  A comment at the end of the text hides the end of the
group, and a group around an expression that is nested as deeply as may be is one too many; an
expression is `Groupable` if neither is the case.

**Validity decides what can be made ready** (`compile_iff_validate`) as far as the searches are
groupable.  What is wrong with a rule set is reported in either case; a search that is not
groupable is only found when the rule set is made ready.
-/
namespace Gedcom
namespace Regex

/-! ## Sequences -/

namespace Node
variable {n m : Node} {ns : List Node}

/-- Nothing in a sequence is a sequence itself. -/
theorem items_of_mem_items (h : m ∈ n.items) : m.items = [m] := by
  induction n with
  | seq a b iha ihb =>
    rw [items, List.mem_append] at h
    exact h.elim iha ihb
  | empty => cases h
  | _ =>
    rw [List.mem_singleton.mp h]
    rfl

theorem items_ofItems (h : ∀ m ∈ ns, m.items = [m]) : (ofItems ns).items = ns := by
  induction ns with
  | nil => rfl
  | cons n ns ih =>
    obtain ⟨hn, hns⟩ := List.forall_mem_cons.mp h
    cases ns with
    | nil => exact hn
    | cons m ns => rw [ofItems, items, hn, ih hns, List.singleton_append]

/-- Whether a node is the same as the sequence of it alone. -/
def Flat (n : Node) : Prop := sequence [n] = n

theorem flat_sequence (ns : List Node) : Flat (sequence ns) := by
  have hitems : (sequence ns).items = ns.flatMap items := by
    refine items_ofItems fun m hm => ?_
    obtain ⟨n, _, hmem⟩ := List.mem_flatMap.mp hm
    exact items_of_mem_items hmem
  rw [Flat, sequence, List.flatMap_singleton, hitems]
  rfl

theorem length_le_length_branches (ns : List Node) : ns.length ≤ (ns.flatMap branches).length := by
  have hone : ∀ n : Node, 1 ≤ n.branches.length := by
    intro n
    induction n with
    | alt a b iha ihb =>
      rw [branches, List.length_append]
      omega
    | _ => exact Nat.le_refl 1
  induction ns with
  | nil => exact Nat.le_refl 0
  | cons n ns ih =>
    rw [List.flatMap_cons, List.length_append, List.length_cons]
    have := hone n
    omega

theorem flat_alternation (h : 2 ≤ ns.length) : Flat (alternation ns) := by
  unfold alternation
  have hlength := Nat.le_trans h (length_le_length_branches ns)
  generalize ns.flatMap branches = bs at hlength
  dsimp only
  split
  · rfl
  · match bs with
    | [] => exact absurd hlength (by decide)
    | [_] => exact absurd hlength (by simp)
    | _ :: _ :: _ => rfl

/-- Of several branches no choice is a sequence of which more than its own parts are known. -/
theorem flat_choice (h : ∀ n, ns = [n] → Flat n) : Flat (choice ns) := by
  match ns with
  | [] => rfl
  | [n] => exact h n rfl
  | n :: m :: ns =>
    unfold choice
    dsimp only
    split
    · refine flat_alternation (Nat.le_trans ?_ (length_le_length_branches (n :: m :: ns)))
      exact Nat.le_add_left 2 ns.length
    · exact flat_sequence _

end Node

/-- A group stands for a sequence of one. -/
theorem OpenGroup.flat_whole (g : OpenGroup) : g.whole.node.Flat := by
  refine Node.flat_choice fun n hn => ?_
  rw [List.reverse_cons, List.map_append] at hn
  obtain ⟨-, hbranch⟩ | ⟨-, hbranch⟩ := List.append_eq_singleton_iff.mp hn
  · rw [← List.singleton_inj.mp hbranch]
    exact Node.flat_sequence _
  · cases hbranch

/-! ## The tree of a group -/

theorem depthOf_singleton (p : Part) : depthOf [p] = p.depth := by
  simp [depthOf]

namespace Builder
variable {b b' : Builder} {tok : Token} {toks : List Token}

/-- An expression in progress inside of one more group. -/
def within (b : Builder) : Builder := { b with outer := b.outer ++ [(none, {})] }

/-- What a token does, it does inside of a group, too. -/
theorem step?_within (h : b.step? tok = some b') : b.within.step? tok = some b'.within := by
  cases tok with
  | chars s bytes depth | look a | flags | bar =>
    cases h
    rfl
  | times least most greedy =>
    obtain ⟨g, hg, rfl⟩ := Option.map_eq_some_iff.mp h
    rw [step?]
    exact congrArg (Option.map _) hg
  | openPlain =>
    cases h
    rfl
  | openGroup name =>
    rw [step?] at h ⊢
    split at h
    · cases h
    · next hname =>
      cases h
      exact if_neg hname
  | close =>
    rw [step?] at h ⊢
    split at h
    · cases h
    · next kept g outer houter =>
      cases h
      rw [within, houter]
      rfl

theorem foldlM_step?_within (h : toks.foldlM step? b = some b') :
    toks.foldlM step? b.within = some b'.within := by
  induction toks generalizing b with
  | nil => exact congrArg (fun b : Option Builder => b.map within) h
  | cons tok toks ih =>
    rw [List.foldlM_cons] at h ⊢
    obtain ⟨b₁, hstep, hrest⟩ := Option.bind_eq_some_iff.mp h
    exact Option.bind_eq_some_iff.mpr ⟨_, step?_within hstep, ih hrest⟩

/-- An expression that is one part, a group around the parts so far. -/
def enclose (b : Builder) : Builder :=
  let whole := b.inner.whole
  { b with inner := { parts := [{ node := whole.node, depth := whole.depth + 1 }] } }

theorem node_whole_enclose (b : Builder) : b.enclose.inner.whole.node = b.inner.whole.node :=
  b.inner.flat_whole

theorem depth_whole_enclose (b : Builder) :
    b.enclose.inner.whole.depth = b.inner.whole.depth + 1 := by
  calc b.enclose.inner.whole.depth = b.enclose.inner.branch.depth := depthOf_singleton _
    _ = b.inner.whole.depth + 1 :=
      depthOf_singleton { node := b.inner.whole.node, depth := b.inner.whole.depth + 1 }

/-- Tokens in parentheses make one part of what they make otherwise. -/
theorem foldlM_step?_grouped (h : toks.foldlM step? {} = some b) (houter : b.outer = []) :
    (Token.openPlain :: (toks ++ [.close])).foldlM step? {} = some b.enclose := by
  have hopen : step? {} .openPlain = some ({} : Builder).within := rfl
  rw [List.foldlM_cons, hopen, Option.bind_eq_bind, Option.bind_some, List.foldlM_append,
    foldlM_step?_within h, Option.bind_eq_bind, Option.bind_some, List.foldlM_cons, step?, within,
    houter, enclose, houter]
  rfl

end Builder

/-- How deeply an expression is nested. -/
def depth? (t : Text) : Option Nat := do
  let b ← (← Token.ofText? t).foldlM Builder.step? {}
  return b.inner.whole.depth

/-- Whether an expression is one as a group of its own, too: it does not end in a comment, which
would hide the end of the group, and it is not nested so deeply that a group around it is one
too many. -/
structure Groupable (t : Text) : Prop where
  noComment : ¬Token.EndsInComment t
  shallow : ∃ depth ∈ depth? t, depth < maxDepth

instance (t : Text) : Decidable (Groupable t) :=
  decidable_of_iff (¬Token.EndsInComment t ∧ ∃ depth ∈ depth? t, depth < maxDepth)
    ⟨fun h => ⟨h.1, h.2⟩, fun h => ⟨h.1, h.2⟩⟩

theorem ofText_eq_ok {t : Text} {r : Regex} :
    ofText t = .ok r ↔ ∃ n, (Token.ofText? t >>= Node.ofTokens?) = some n ∧
      n.tooLarge = false ∧ r = ofNode n := by
  unfold ofText
  cases Token.ofText? t >>= Node.ofTokens? with
  | none => exact ⟨nofun, fun ⟨_, h, _⟩ => nomatch h⟩
  | some n =>
    dsimp only
    split
    · next hlarge =>
      refine ⟨nofun, fun ⟨m, hm, hroom, _⟩ => ?_⟩
      rw [← Option.some.inj hm, hlarge] at hroom
      cases hroom
    · next hroom =>
      constructor
      · intro h
        exact ⟨n, rfl, Bool.eq_false_iff.mpr hroom, (Except.ok.inj h).symm⟩
      · rintro ⟨m, hm, -, rfl⟩
        rw [Option.some.inj hm]

theorem ofTokens?_grouped {toks : List Token} {b : Builder}
    (h : toks.foldlM Builder.step? {} = some b) (houter : b.outer = []) :
    Node.ofTokens? (.openPlain :: (toks ++ [.close])) =
      if b.inner.whole.depth < maxDepth then some b.inner.whole.node else none := by
  have houter' : b.enclose.outer = [] := houter
  rw [Node.ofTokens?, Builder.foldlM_step?_grouped h houter, Option.bind_eq_bind, Option.bind_some,
    b.node_whole_enclose, b.depth_whole_enclose, houter']
  simp only [List.isEmpty_nil, Bool.true_and, decide_eq_true_eq, Nat.succ_le_iff]

/-- **An expression as a group of its own** is the same expression, or none at all. -/
theorem ofText_grouped {t : Text} {r : Regex} (h : ofText t = .ok r) :
    ofText (Token.grouped t) = if Groupable t then .ok r else .error .notExpression := by
  obtain ⟨n, hn, hroom, rfl⟩ := ofText_eq_ok.mp h
  obtain ⟨toks, htoks, hn⟩ := Option.bind_eq_some_iff.mp hn
  obtain ⟨b, hb, hn⟩ := Option.bind_eq_some_iff.mp hn
  split_ifs at hn with hdone
  cases hn
  rw [Bool.and_eq_true] at hdone
  have hdepth : depth? t = some b.inner.whole.depth := by
    rw [depth?, htoks, Option.bind_eq_bind, Option.bind_some, hb]
    rfl
  by_cases hcomment : Token.EndsInComment t
  · rw [if_neg fun hgroupable => hgroupable.noComment hcomment, ofText,
      Token.ofText?_grouped htoks, if_pos hcomment]
    rfl
  · rw [ofText, Token.ofText?_grouped htoks, if_neg hcomment, Option.bind_eq_bind,
      Option.bind_some, ofTokens?_grouped hb (List.isEmpty_iff.mp hdone.1)]
    by_cases hshallow : b.inner.whole.depth < maxDepth
    · rw [if_pos hshallow, if_pos ⟨hcomment, _, hdepth, hshallow⟩]
      dsimp only
      rw [hroom]
      rfl
    · rw [if_neg hshallow, if_neg]
      rintro ⟨_, depth, hdepth', hlt⟩
      rw [hdepth] at hdepth'
      exact hshallow (Option.some.inj hdepth' ▸ hlt)

end Regex

theorem ofText_of_searchRegex {search : String} {r : Regex} (h : searchRegex search = .ok r) :
    Regex.ofText search.toList = .ok r := by
  unfold searchRegex at h
  split at h
  · next hr => rw [hr, Except.ok.inj h]
  · cases h
  · cases h

namespace RuleSet
variable {filter : String} {macros : Macros} {ps : Params} {hasHook : Bool} {s : RuleSet}

/-! ## Valid rule sets -/

theorem problem?_eq_none_of_ruleFault? {earlier : List Pattern} {rs : List Rule}
    (h : ruleFault? filter macros hasHook earlier rs = none) :
    ∀ r ∈ rs, r.problem? macros hasHook = none := by
  induction rs generalizing earlier with
  | nil => exact nofun
  | cons q rs ih =>
    rw [ruleFault?] at h
    split at h
    · cases h
    · next hproblem =>
      split at h
      · cases h
      · exact List.forall_mem_cons.mpr ⟨hproblem, ih h⟩

/-- Nothing is wrong with the macros and the rules of a valid rule set. -/
theorem problem?_eq_none_of_validate (h : s.validate filter macros hasHook = .ok ()) :
    macroProblem? macros = none ∧ ∀ r ∈ s.rules, r.problem? macros hasHook = none := by
  unfold validate fault? at h
  split at h
  · cases h
  · next hfault =>
    split at hfault
    · cases hfault
    · split at hfault
      · cases hfault
      · next hmacros => exact ⟨hmacros, problem?_eq_none_of_ruleFault? hfault⟩

theorem op_problem?_eq_none {r : Rule} (h : r.problem? macros hasHook = none) :
    ∀ op ∈ r.ops, op.problem? macros hasHook r.pattern = none := by
  unfold Rule.problem? at h
  split at h
  · cases h
  · split at h
    · cases h
    · next hops => exact List.findSome?_eq_none_iff.mp hops

theorem searchRegex_of_problem? {sub : Substitution} (h : sub.problem? = none) :
    ∃ r, searchRegex sub.search = .ok r := by
  unfold Substitution.problem? at h
  split at h
  · next r hr => exact ⟨r, hr⟩
  · cases h

theorem problem?_of_macro {name : String} {subs : List Substitution} {sub : Substitution}
    (h : macroProblem? macros = none) (hname : macros.find? name = some subs) (hsub : sub ∈ subs) :
    sub.problem? = none := by
  obtain ⟨before, after, hentries, -⟩ := List.lookup_eq_some_iff.mp hname
  have hmacro := List.findSome?_eq_none_iff.mp h (name, subs) (by rw [hentries]; simp)
  exact List.findSome?_eq_none_iff.mp (Option.map_eq_none_iff.mp hmacro) sub hsub

/-- The substitutions of a rule set when its macros are written out. -/
def substitutions (macros : Macros) (s : RuleSet) : List Substitution :=
  ((s.flatMapOps (writtenOut macros)).rules.flatMap (·.ops)).filterMap fun
    | .substitute sub => some sub
    | _ => none

/-- A substitution stands in a rule or in a macro that a rule uses. -/
theorem mem_substitutions {sub : Substitution} :
    sub ∈ s.substitutions macros ↔
      ∃ r ∈ s.rules, ∃ op ∈ r.ops, .substitute sub ∈ writtenOut macros op := by
  simp only [substitutions, flatMapOps, List.mem_filterMap, List.mem_flatMap, List.mem_map]
  constructor
  · rintro ⟨op', ⟨_, ⟨r, hr, rfl⟩, hop'⟩, hsub⟩
    obtain ⟨op, hop, hmem⟩ := List.mem_flatMap.mp hop'
    cases op' with
    | substitute sub' =>
      obtain rfl := Option.some.inj hsub
      exact ⟨r, hr, op, hop, hmem⟩
    | convert | useMacro _ => cases hsub
  · rintro ⟨r, hr, op, hop, hmem⟩
    exact ⟨_, ⟨_, ⟨r, hr, rfl⟩, List.mem_flatMap.mpr ⟨op, hop, hmem⟩⟩, rfl⟩

/-- The searches of a valid rule set are expressions, those of the macros it uses as well. -/
theorem searchRegex_of_validate (h : s.validate filter macros hasHook = .ok ()) :
    ∀ sub ∈ s.substitutions macros, ∃ r, searchRegex sub.search = .ok r := by
  intro sub hsub
  obtain ⟨hmacros, hrules⟩ := problem?_eq_none_of_validate h
  obtain ⟨r, hr, op, hop, hmem⟩ := mem_substitutions.mp hsub
  have hproblem := op_problem?_eq_none (hrules r hr) op hop
  refine searchRegex_of_problem? ?_
  cases op with
  | substitute sub' =>
    obtain rfl := Op.substitute.inj (List.mem_singleton.mp hmem)
    exact hproblem
  | convert => cases List.mem_singleton.mp hmem
  | useMacro name =>
    obtain ⟨sub', hsub', hsame⟩ := List.mem_map.mp hmem
    obtain rfl := Op.substitute.inj hsame
    cases hname : macros.find? name with
    | none =>
      rw [hname] at hsub'
      cases hsub'
    | some subs =>
      rw [hname] at hsub'
      exact problem?_of_macro hmacros hname hsub'

/-- A valid rule set uses no macro that is not defined. -/
theorem unknownMacro?_of_validate (h : s.validate filter macros hasHook = .ok ()) :
    s.unknownMacro? macros = none := by
  obtain ⟨-, hrules⟩ := problem?_eq_none_of_validate h
  rw [unknownMacro?, List.findSome?_eq_none_iff]
  intro op hop
  obtain ⟨r, hr, hop⟩ := List.mem_flatMap.mp hop
  have hproblem := op_problem?_eq_none (hrules r hr) op hop
  cases op with
  | useMacro name =>
    rw [Op.problem?] at hproblem
    split at hproblem
    · next hknown => exact if_pos hknown
    · cases hproblem
  | substitute _ | convert => rfl

/-! ## Rule sets made ready -/

/-- A search as it is carried out is the search as it is written, if it can be a group. -/
theorem searchRegex_delimit {sub : Substitution} {r : Regex} (h : searchRegex sub.search = .ok r) :
    searchRegex (delimit sub).search =
      if Regex.Groupable sub.search.toList then .ok r
      else .error (.badSearch (delimit sub).search) := by
  have hgrouped : (delimit sub).search.toList = Regex.Token.grouped sub.search.toList := by
    rw [delimit, String.toList_append, String.toList_append]
    rfl
  rw [searchRegex, hgrouped, Regex.ofText_grouped (ofText_of_searchRegex h)]
  split_ifs <;> rfl

/-- No macro is left when the macros are written out. -/
theorem eq_of_mem_writtenOut {op op' : Op} (h : op' ∈ writtenOut macros op) :
    op' = .convert ∨ ∃ sub, op' = .substitute sub := by
  cases op with
  | substitute sub => exact .inr ⟨sub, List.mem_singleton.mp h⟩
  | convert => exact .inl (List.mem_singleton.mp h)
  | useMacro name =>
    obtain ⟨sub, -, rfl⟩ := List.mem_map.mp h
    exact .inr ⟨sub, rfl⟩

/-- The rules become something if all their searches are expressions as groups. -/
theorem exists_becomes_iff :
    (∃ rules, List.Forall₂ (Rule.Becomes ps) (s.flatMapOps (writtenOut macros)).rules rules) ↔
      ∀ sub ∈ s.substitutions macros, ∃ r, searchRegex (delimit sub).search = .ok r := by
  simp only [exists_forall₂_iff, mem_substitutions]
  rw [flatMapOps, List.forall_mem_map]
  constructor
  · rintro h sub ⟨r, hr, op, hop, hmem⟩
    obtain ⟨q, hq⟩ := h r hr
    obtain ⟨q', hq'⟩ := exists_forall₂_iff.mp ⟨_, hq.ops⟩ _ (List.mem_flatMap.mpr ⟨op, hop, hmem⟩)
    cases hq' with
    | substitute hregex => exact ⟨_, hregex⟩
  · intro h r hr
    have hops : ∀ op ∈ r.ops.flatMap (writtenOut macros), ∃ q, Op.Becomes ps op q := by
      intro op' hop'
      obtain ⟨op, hop, hmem⟩ := List.mem_flatMap.mp hop'
      obtain rfl | ⟨sub, rfl⟩ := eq_of_mem_writtenOut hmem
      · exact ⟨_, .convert⟩
      · obtain ⟨regex, hregex⟩ := h sub ⟨r, hr, op, hop, hmem⟩
        exact ⟨_, .substitute hregex⟩
    obtain ⟨ops, hops⟩ := exists_forall₂_iff.mpr hops
    exact ⟨⟨⟨r.pattern⟩, ops⟩, rfl, hops⟩

/-- **Which rule sets can be made ready**: those that are valid and whose searches are still
expressions as groups of their own. -/
theorem exists_compile_iff :
    (∃ ready, s.compile filter macros ps hasHook = .ok ready) ↔
      s.validate filter macros hasHook = .ok () ∧
        ∀ sub ∈ s.substitutions macros, Regex.Groupable sub.search.toList := by
  have hsearches : s.validate filter macros hasHook = .ok () →
      ((∃ rules, List.Forall₂ (Rule.Becomes ps) (s.flatMapOps (writtenOut macros)).rules rules) ↔
        ∀ sub ∈ s.substitutions macros, Regex.Groupable sub.search.toList) := by
    intro hvalid
    rw [exists_becomes_iff]
    refine forall₂_congr fun sub hsub => ?_
    obtain ⟨r, hr⟩ := searchRegex_of_validate hvalid sub hsub
    rw [searchRegex_delimit hr]
    split
    · next h => exact ⟨fun _ => h, fun _ => ⟨r, rfl⟩⟩
    · next h => exact ⟨nofun, fun h' => absurd h' h⟩
  constructor
  · rintro ⟨ready, h⟩
    obtain ⟨hvalid, -, hrules⟩ := compile_eq_ok.mp h
    exact ⟨hvalid, (hsearches hvalid).mp ⟨_, hrules⟩⟩
  · rintro ⟨hvalid, h⟩
    obtain ⟨rules, hrules⟩ := (hsearches hvalid).mpr h
    exact ⟨⟨rules⟩, compile_eq_ok.mpr ⟨hvalid, unknownMacro?_of_validate hvalid, hrules⟩⟩

/-- What a valid rule set fails with names a search that is none as a group. -/
theorem error_of_compile {e : Fault} (hvalid : s.validate filter macros hasHook = .ok ())
    (h : s.compile filter macros ps hasHook = .error e) :
    ∃ sub ∈ s.substitutions macros, ¬Regex.Groupable sub.search.toList ∧
      e = .rule filter (.badSearch (delimit sub).search) := by
  have hwritten : s.expand macros = .ok (s.flatMapOps (writtenOut macros)) :=
    expand_eq_ok.mpr ⟨unknownMacro?_of_validate hvalid, rfl⟩
  rw [compile, hvalid, hwritten] at h
  have hrules := eq_error_of_bind_pure h
  rw [delimited, rules_mapSubstitutions, rules_mapSubstitutions, List.map_map] at hrules
  obtain ⟨r', hr', hready⟩ := exists_of_mapM_eq_error hrules
  obtain ⟨r, hr, rfl⟩ := List.mem_map.mp hr'
  rw [Rule.ready, map_eq_pure_bind] at hready
  have hops := eq_error_of_bind_pure hready
  obtain ⟨op', hop', hfails⟩ := exists_of_mapM_eq_error hops
  obtain ⟨op₁, hop₁, rfl⟩ := List.mem_map.mp hop'
  obtain ⟨op, hop, rfl⟩ := List.mem_map.mp hop₁
  obtain ⟨q, hq, rfl⟩ := List.mem_map.mp hr
  obtain ⟨written, hmem, hop⟩ := List.mem_flatMap.mp hop
  obtain rfl | ⟨sub, rfl⟩ := eq_of_mem_writtenOut hop
  · cases hfails
  · have hsub := mem_substitutions.mpr ⟨q, hq, written, hmem, hop⟩
    obtain ⟨regex, hregex⟩ := searchRegex_of_validate hvalid sub hsub
    have hsearch : (delimit (interpolate ps sub)).search = (delimit sub).search := rfl
    rw [changed, changed, Op.ready, hsearch, searchRegex_delimit hregex] at hfails
    split_ifs at hfails with hgroupable
    exact ⟨sub, hsub, hgroupable, (Except.error.inj hfails).symm⟩

/-- **Validity decides whether a rule set can be made ready, up to comments and depth.**  What is
wrong with a rule set is also what making it ready fails with.  A valid rule set is ready unless
one of its searches, those of the macros it uses included, ends in a comment or is nested as
deeply as expressions may be; then making it ready fails with that search as a group. -/
theorem compile_iff_validate (filter : String) (macros : Macros) (ps : Params) (hasHook : Bool)
    (s : RuleSet) :
    (∀ e, s.validate filter macros hasHook = .error e →
        s.compile filter macros ps hasHook = .error e) ∧
      ((∃ ready, s.compile filter macros ps hasHook = .ok ready) ↔
        s.validate filter macros hasHook = .ok () ∧
          ∀ sub ∈ s.substitutions macros, Regex.Groupable sub.search.toList) ∧
      ∀ e, s.validate filter macros hasHook = .ok () →
        s.compile filter macros ps hasHook = .error e →
        ∃ sub ∈ s.substitutions macros, ¬Regex.Groupable sub.search.toList ∧
          e = .rule filter (.badSearch (delimit sub).search) := by
  refine ⟨fun e he => ?_, exists_compile_iff, fun e => error_of_compile⟩
  rw [compile, he]
  rfl

/-- A rule whose search says in a comment what it is about. -/
def commented : RuleSet := ofList [("INDI", [.substitute ⟨"(?x)Ada # a name", "Bea"⟩])]

/-- The comment of a search hides the end of the group that is put around it. -/
theorem not_compile_commented :
    commented.validate "Bea" {} false = .ok () ∧
      commented.compile "Bea" {} {} false =
        .error (.rule "Bea" (.badSearch "(?:(?x)Ada # a name)")) := by
  have hvalid : commented.validate "Bea" {} false = .ok () := by decide +kernel
  have hcomment : ¬Regex.Groupable "(?x)Ada # a name".toList := by decide
  have hsub : commented.substitutions {} = [⟨"(?x)Ada # a name", "Bea"⟩] := rfl
  refine ⟨hvalid, ?_⟩
  cases hcompile : commented.compile "Bea" {} {} false with
  | ok ready =>
    have hgroupable := (exists_compile_iff.mp ⟨ready, hcompile⟩).2
    rw [hsub, List.forall_mem_singleton] at hgroupable
    exact absurd hgroupable hcomment
  | error e =>
    obtain ⟨sub, hmem, -, rfl⟩ := error_of_compile hvalid hcompile
    rw [hsub, List.mem_singleton] at hmem
    rw [hmem]
    rfl

end RuleSet
end Gedcom
