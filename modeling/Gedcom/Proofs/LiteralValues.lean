import Gedcom.Proofs.Compilation
import Gedcom.Proofs.Fillings

/-!
# Values stay literal

When a rule set is made ready, the values of parameters are put into its replacements as they
are; only what a replacement has of its own is meant to refer to groups.
`fills_iff_isGuarded` says for which replacements this is so: for those that are guarded, in
which no lone dollar sign and no reference by number stands directly in front of a placeholder.
A value behind one of these is read as a part of the reference (`not_literal_dollar`), and
values as plain as digits and a brace change what the replacement makes of every match.
-/
namespace Gedcom
open Regex (Piece digitsBrace)

/-- The operation at a place of a rule set, which is the number of a rule and a number in it. -/
def RuleSet.op? (s : RuleSet) (i j : Nat) : Option Op := s.rules[i]?.bind (·.ops[j]?)

/-- The operation at a place of a rule set that is ready. -/
def ReadyRules.op? (s : ReadyRules) (i j : Nat) : Option ReadyOp := s.rules[i]?.bind (·.ops[j]?)

/-- What the substitution at a place makes of a text. -/
def ReadyRules.substituted? (s : ReadyRules) (i j : Nat) (t : Text) : Option Text :=
  match s.op? i j with
  | some (.substitute _ regex replacement) => some (regex.substitute replacement.toList t)
  | _ => none

/-- Whether the substitution at a place makes of a match what a filling does. -/
def ReadyRules.Fills (s : ReadyRules) (i j : Nat) (f : Filling) (t : Text) (m : Regex.Match) :
    Prop :=
  ∃ search regex replacement, s.op? i j = some (.substitute search regex replacement) ∧
    Piece.expand regex t m (Piece.ofText replacement.toList) = f.expand regex t m

namespace Params

/-- Parameters with the same names, of which all values are digits and a brace. -/
def withDigits (ps : Params) (n : Nat) : Params :=
  ⟨ps.values.map fun _ => String.ofList (digitsBrace n)⟩

theorem names_withDigits (ps : Params) (n : Nat) :
    (ps.withDigits n).values.names = ps.values.names := by
  rw [withDigits, Table.names, Table.map, List.map_map]
  rfl

theorem eq_of_mem_withDigits {ps : Params} {n : Nat} {value : String}
    (h : value ∈ (ps.withDigits n).values.entries.map (·.2)) :
    value = String.ofList (digitsBrace n) := by
  rw [withDigits, Table.map, List.map_map] at h
  obtain ⟨_, _, rfl⟩ := List.mem_map.mp h
  rfl

theorem exists_length_placeholder_le (ps : Params) :
    ∃ n, ∀ name ∈ ps.values.names, (placeholder name).length ≤ n :=
  ⟨_, fun _ hname =>
    List.le_sum_of_mem (List.mem_map_of_mem (f := fun name => (placeholder name).length) hname)⟩

/-- Digits that are longer than all placeholders are plain. -/
theorem isPlain_withDigits {ps : Params} {n : Nat}
    (h : ∀ name ∈ ps.values.names, (placeholder name).length ≤ n) : (ps.withDigits n).IsPlain := by
  intro value hvalue
  rw [eq_of_mem_withDigits hvalue, Filling.literalValue_digitsBrace, digitsBrace]
  refine ⟨?_, fun name hname hinfix => ?_⟩
  · simp
  · rw [names_withDigits] at hname
    have hle := hinfix.length_le
    have := h name hname
    rw [List.length_append, List.length_replicate] at hle
    omega

end Params

namespace RuleSet
variable {filter : String} {macros : Macros} {ps qs : Params} {hasHook : Bool} {s : RuleSet}
  {ready : ReadyRules} {i j : Nat} {sub : Substitution}

/-- A substitution keeps its place when a rule set is made ready. -/
theorem op?_of_compile (h : s.compile filter macros ps hasHook = .ok ready)
    (hop : (s.flatMapOps (writtenOut macros)).op? i j = some (.substitute sub)) :
    ∃ regex, searchRegex (delimit sub).search = .ok regex ∧
      ready.op? i j = some (.substitute (delimit sub).search regex
        (delimit (interpolate ps sub)).replacement) := by
  obtain ⟨_, _, hrules⟩ := compile_eq_ok.mp h
  obtain ⟨r, hr, hop⟩ := Option.bind_eq_some_iff.mp hop
  obtain ⟨q, hq, hbecomes⟩ := getElem?_of_forall₂ hrules hr
  obtain ⟨op, hop', hbecomes⟩ := getElem?_of_forall₂ hbecomes.ops hop
  cases hbecomes with
  | substitute hregex =>
    exact ⟨_, hregex, by rw [ReadyRules.op?, hq, Option.bind_some, hop']⟩

/-- What a substitution makes of a match is what its replacement says, as it is written with
the parameters put in. -/
theorem fills_iff (h : s.compile filter macros ps hasHook = .ok ready)
    (hop : (s.flatMapOps (writtenOut macros)).op? i j = some (.substitute sub)) {regex : Regex}
    (hregex : searchRegex (delimit sub).search = .ok regex) {f : Filling} {t : Text}
    {m : Regex.Match} :
    ready.Fills i j f t m ↔
      Piece.expand regex t m (Piece.written (ps.interpolate sub.replacement.toList)) =
        f.expand regex t m := by
  have hreplacement : Piece.ofText (delimit (interpolate ps sub)).replacement.toList =
      Piece.written (ps.interpolate sub.replacement.toList) := by
    rw [delimit, interpolate, String.toList_ofList, String.toList_ofList,
      Regex.Replacement.ofText_explicit]
  obtain ⟨regex', hregex', hready⟩ := op?_of_compile h hop
  obtain rfl := Except.ok.inj (hregex'.symm.trans hregex)
  constructor
  · rintro ⟨_, _, _, hop', hexpand⟩
    obtain ⟨rfl, rfl, rfl⟩ := ReadyOp.substitute.inj (Option.some.inj (hop'.symm.trans hready))
    rwa [hreplacement] at hexpand
  · intro hexpand
    exact ⟨_, _, _, hready, by rw [hreplacement, hexpand]⟩

/-- **Values stay literal** in guarded replacements, and only in these.  If a replacement is
guarded, then what it makes of a match is its own text with its own references and the values
as they are, whatever values the parameters have, as long as these do not take part in
placeholders.  If this is so for all plain values, be it at a single match only, then the
replacement is guarded. -/
theorem fills_iff_isGuarded (h : s.compile filter macros ps hasHook = .ok ready)
    (hop : (s.flatMapOps (writtenOut macros)).op? i j = some (.substitute sub)) (t : Text)
    (m : Regex.Match) :
    ((ps.filling sub.replacement.toList).isGuarded = true →
      ∀ qs : Params, qs.values.names = ps.values.names → qs.Separates sub.replacement.toList →
        ∃ ready', s.compile filter macros qs hasHook = .ok ready' ∧
          ready'.Fills i j (qs.filling sub.replacement.toList) t m) ∧
    ((∀ qs : Params, qs.values.names = ps.values.names → qs.IsPlain →
        ∃ ready', s.compile filter macros qs hasHook = .ok ready' ∧
          ready'.Fills i j (qs.filling sub.replacement.toList) t m) →
      (ps.filling sub.replacement.toList).isGuarded = true) := by
  obtain ⟨regex, hregex, _⟩ := op?_of_compile h hop
  refine ⟨fun hguarded qs hnames hseparates => ?_, fun hall => ?_⟩
  · obtain ⟨ready', h'⟩ := exists_compile h qs
    refine ⟨ready', h', (fills_iff h' hop hregex).mpr ?_⟩
    rw [hseparates]
    exact Filling.expand_written_text (by rw [Params.isGuarded_filling hnames, hguarded]) t
  · obtain ⟨n, hwithin⟩ := Regex.exists_groupsWithin regex m
    obtain ⟨k, hk⟩ := Params.exists_length_placeholder_le ps
    have hplain := Params.isPlain_withDigits fun name hname =>
      (hk name hname).trans (Nat.le_add_left k n)
    have hnames := Params.names_withDigits ps (n + k)
    obtain ⟨ready', h', hfills⟩ := hall _ hnames hplain
    rw [fills_iff h' hop hregex, Params.separates_of_isPlain hplain] at hfills
    rw [← Params.isGuarded_filling hnames]
    by_contra hguarded
    have hlt := Filling.length_expand_lt (Bool.eq_false_iff.mpr hguarded)
      (hwithin.mono (Nat.le_add_right n k))
      (fun value hvalue => Params.eq_of_mem_withDigits (Params.mem_values_filling hvalue)) t
    rw [hfills] at hlt
    exact Nat.lt_irrefl _ hlt

/-- A rule that adds the name of the tree to a match. -/
def signed : RuleSet := ofList [("INDI", [.substitute ⟨"(a)", "$1 in %TREE%"⟩])]

/-- A dollar sign in a value stays what it is, whatever digit follows it. -/
theorem fills_iff_isGuarded_signed :
    ∃ ready search regex replacement,
      signed.compile "Signed" {} (.ofList [("tree", "$1")]) false = .ok ready ∧
      (signed.flatMapOps (writtenOut {})).op? 0 0 = some (.substitute ⟨"(a)", "$1 in %TREE%"⟩) ∧
      ready.op? 0 0 = some (.substitute search regex replacement) ∧
      ∀ t, regex.substitute replacement.toList t =
        regex.replaceAll (fun t m => m.group t 1 ++ " in $1".toList) t := by
  have hcompile : (signed.compile "Signed" {} (.ofList [("tree", "$1")]) false).toOption.isSome =
      true := by decide +kernel
  obtain ⟨ready, hready⟩ := Option.isSome_iff_exists.mp hcompile
  replace hready := eq_ok_of_toOption hready
  have hop : (signed.flatMapOps (writtenOut {})).op? 0 0 =
      some (.substitute ⟨"(a)", "$1 in %TREE%"⟩) := by decide
  have hfilling : (Params.ofList [("tree", "$1")]).filling "$1 in %TREE%".toList =
      .hole "$1 in ".toList "$1" (.last []) := by decide
  have hwritten : Piece.written "$1 in ".toList =
      .group (.index 1) :: " in ".toList.map .char := by decide +kernel
  have hguarded : ((Params.ofList [("tree", "$1")]).filling
      "$1 in %TREE%".toList).isGuarded = true := by decide +kernel
  have hseparates : (Params.ofList [("tree", "$1")]).interpolate "$1 in %TREE%".toList =
      ((Params.ofList [("tree", "$1")]).filling "$1 in %TREE%".toList).text := by decide
  obtain ⟨regex, _, hready'⟩ := op?_of_compile hready hop
  refine ⟨ready, _, regex, _, hready, hop, hready', fun t => ?_⟩
  rw [Regex.substitute_eq]
  congr 1
  funext t m
  obtain ⟨_, hready'', _, _, _, hop', hexpand⟩ :=
    (fills_iff_isGuarded hready hop t m).1 hguarded _ rfl hseparates
  obtain rfl := Except.ok.inj (hready''.symm.trans hready)
  obtain ⟨rfl, rfl, rfl⟩ := ReadyOp.substitute.inj (Option.some.inj (hop'.symm.trans hready'))
  rw [hexpand, hfilling, Filling.expand, hwritten, Filling.expand, Piece.written_nil,
    Piece.expand_nil, Piece.expand_cons, Piece.expand_chars, List.append_nil, List.append_assoc]
  rfl

/-- A rule that puts a dollar sign in front of the name of the tree. -/
def priced : RuleSet := ofList [("INDI", [.substitute ⟨"(a)", "$%TREE%"⟩])]

/-- A digit behind a dollar sign is read as a reference. -/
theorem not_literal_dollar :
    ∃ ready, priced.compile "Priced" {} (.ofList [("tree", "1")]) false = .ok ready ∧
      ready.substituted? 0 0 "a".toList = some "a".toList ∧
      ∀ r t m, ((Params.ofList [("tree", "1")]).filling "$%TREE%".toList).expand r t m =
        "$1".toList := by
  have hcompile : (priced.compile "Priced" {} (.ofList [("tree", "1")]) false).toOption.bind
      (·.substituted? 0 0 "a".toList) = some "a".toList := by decide +kernel
  have hfilling : (Params.ofList [("tree", "1")]).filling "$%TREE%".toList =
      .hole "$".toList "1" (.last []) := by decide
  have hwritten : Piece.written "$".toList = [.char '$'] := by decide +kernel
  obtain ⟨ready, hready, ha⟩ := Option.bind_eq_some_iff.mp hcompile
  refine ⟨ready, eq_ok_of_toOption hready, ha, fun r t m => ?_⟩
  rw [hfilling, Filling.expand, hwritten, Filling.expand, Piece.written_nil]
  rfl

end RuleSet
end Gedcom
