import Gedcom.Proofs.Refiltering
import Mathlib.Data.List.Infix

/-!
# Filters that rewrite lines

The operations of a rule run over the text of a structure once everything below its first line
is done.  A filter that keeps all lines and whose operations make lines out of lines leaves of
a record its lines, rewritten from the inside out (`Outline.rewritten`).  `RewritesLines` says
what the operations have to do on each path, and `RewritesLines.run_delivers` what is left of a
transmission.

If the operations change line by line, and changing a line twice is changing it once, then the
order does not matter: a line is changed if operations run on its path or on one above
(`Record.rewritten_changeAll`).  A change that leaves the headings of lines alone leaves a record of
the same shape (`Record.reworded`).
-/
namespace Gedcom

/-! ## Outlines with rewritten lines -/

namespace Outline

/-- The lines that are left of an outline if the lines of every structure are rewritten once
everything below its first line is done. -/
def rewritten (f : List String → List Text → List Text) (path : List String) :
    Outline → List Text
  | .empty => []
  | .entry l below after =>
    f (path ++ [Line.tagOf l]) (l :: below.rewritten f (path ++ [Line.tagOf l])) ++
      after.rewritten f path

/-- An outline with every line changed as its path asks for. -/
def reworded (h : List String → Text → Text) (path : List String) : Outline → Outline
  | .empty => .empty
  | .entry l below after =>
    .entry (h (path ++ [Line.tagOf l]) l) (below.reworded h (path ++ [Line.tagOf l]))
      (after.reworded h path)

end Outline

namespace Record

/-- The lines that are left of a record whose structures are rewritten. -/
def rewritten (f : List String → List Text → List Text) (r : Record) : List Text :=
  f [r.tag] (r.head :: r.below.rewritten f [r.tag])

/-- A record with every line changed as its path asks for. -/
def reworded (h : List String → Text → Text) (r : Record) : Record :=
  ⟨h [r.tag] r.head, r.below.reworded h [r.tag]⟩

end Record

/-! ## Changes line by line -/

namespace Outline
variable {acts : List String → Bool} {g : Text → Text} {path : List String} {o : Outline}

/-- Whether operations run on a path or on one above. -/
def reached (acts : List String → Bool) (path : List String) : Bool := path.inits.any acts

theorem reached_iff : reached acts path = true ↔ ∃ p, p <+: path ∧ acts p = true := by
  rw [reached, List.any_eq_true]
  simp only [List.mem_inits]

theorem reached_concat (tag : String) :
    reached acts (path ++ [tag]) = (reached acts path || acts (path ++ [tag])) := by
  rw [reached, reached, List.inits_append, List.any_append]
  congr 1
  simp

/-- A line is changed if operations run on its path or on one above. -/
def change (acts : List String → Bool) (g : Text → Text) (path : List String) (l : Text) : Text :=
  if reached acts path then g l else l

/-- Operations that change line by line. -/
def changeAll (acts : List String → Bool) (g : Text → Text) (path : List String)
    (ls : List Text) : List Text :=
  if acts path then ls.map g else ls

/-- **From the inside out or all at once**: lines are changed where operations reach them, if
changing a line twice is changing it once.  Below a path that operations reach everything is
going to be changed. -/
theorem map_change_rewritten (hg : ∀ l, g (g l) = g l) (path : List String) (o : Outline) :
    (o.rewritten (changeAll acts g) path).map (change acts g path) =
      (o.reworded (change acts g) path).lines := by
  have hagain : ∀ q l, change acts g q (g l) = g l := by
    intro q l
    rw [change]
    split
    · exact hg l
    · rfl
  induction o generalizing path with
  | empty => rfl
  | entry l below after ihbelow ihafter =>
    have hwhole : (changeAll acts g (path ++ [Line.tagOf l])
          (l :: below.rewritten (changeAll acts g) (path ++ [Line.tagOf l]))).map
            (change acts g path) =
        (l :: below.rewritten (changeAll acts g) (path ++ [Line.tagOf l])).map
          (change acts g (path ++ [Line.tagOf l])) := by
      rw [changeAll]
      by_cases hacts : acts (path ++ [Line.tagOf l]) = true
      · have hreached : reached acts (path ++ [Line.tagOf l]) = true := by
          rw [reached_concat, hacts, Bool.or_true]
        rw [if_pos hacts, List.map_map]
        refine List.map_congr_left fun m _ => ?_
        rw [Function.comp_apply, hagain, change, if_pos hreached]
      · rw [if_neg hacts]
        refine List.map_congr_left fun m _ => ?_
        rw [change, change, reached_concat, Bool.eq_false_of_not_eq_true hacts, Bool.or_false]
    rw [rewritten, List.map_append, hwhole, List.map_cons, ihbelow, ihafter]
    rfl

end Outline

/-! ## Changes behind the headings of lines -/

namespace Line

theorem tagOf_eq_of_heading? {l m : Text} (h : heading? m = heading? l) : tagOf m = tagOf l := by
  have htag : ∀ k, tagOf k = ((heading? k).map fun heading => heading.2.2).getD "" := by
    intro k
    rw [tagOf, heading?, Option.map_map]
    rfl
  rw [htag, htag, h]

theorem isLegible_of_heading? {l m : Text} (h : heading? m = heading? l) (hm : '\n' ∉ m)
    {level : Nat} (hl : isLegible level l = true) : isLegible level m = true := by
  have hlevel : ∀ k, (ofLine? k).any (fun line => line.level == level) =
      (heading? k).any fun heading => heading.1 == level := by
    intro k
    rw [heading?, Option.any_map]
  rw [isLegible, Bool.and_eq_true, hlevel, ← h, ← hlevel] at hl
  rw [isLegible, hl.2, Bool.and_true]
  simpa using hm

end Line

/-- A change of lines that leaves alone what they say in front of their values. -/
structure KeepsHeadings (h : List String → Text → Text) : Prop where
  heading : ∀ path l, Line.heading? (h path l) = Line.heading? l
  newline : ∀ path l, '\n' ∉ l → '\n' ∉ h path l

section KeepsHeadings
variable {h : List String → Text → Text} (hkeeps : KeepsHeadings h)
include hkeeps

theorem KeepsHeadings.tagOf (path : List String) (l : Text) :
    Line.tagOf (h path l) = Line.tagOf l := Line.tagOf_eq_of_heading? (hkeeps.heading path l)

theorem KeepsHeadings.isLegible (path : List String) {level : Nat} {l : Text}
    (hl : Line.isLegible level l = true) : Line.isLegible level (h path l) = true :=
  Line.isLegible_of_heading? (hkeeps.heading path l)
    (hkeeps.newline path l (Line.newline_notMem_of_isLegible hl)) hl

namespace Outline

/-- Lines that keep their headings stay on their paths. -/
theorem entries_reworded (path : List String) (o : Outline) :
    (o.reworded h path).entries path = (o.entries path).map fun e => (e.1, h e.1 e.2) := by
  induction o generalizing path with
  | empty => rfl
  | entry l below after ihbelow ihafter =>
    rw [reworded, entries, hkeeps.tagOf, ihbelow, ihafter, entries, List.map_cons, List.map_append]

theorem isLegible_reworded {level : Nat} {path : List String} {o : Outline}
    (ho : o.isLegible level = true) : (o.reworded h path).isLegible level = true := by
  induction o generalizing level path with
  | empty => exact ho
  | entry l below after ihbelow ihafter =>
    obtain ⟨hl, hbelow, hafter⟩ := isLegible_entry.mp ho
    exact isLegible_entry.mpr ⟨hkeeps.isLegible _ hl, ihbelow hbelow, ihafter hafter⟩

/-- Changes that are made once are made. -/
theorem reworded_reworded (hagain : ∀ path l, h path (h path l) = h path l) (path : List String)
    (o : Outline) : (o.reworded h path).reworded h path = o.reworded h path := by
  induction o generalizing path with
  | empty => rfl
  | entry l below after ihbelow ihafter =>
    rw [reworded, reworded, hkeeps.tagOf, hagain, ihbelow, ihafter]

end Outline

namespace Record

theorem tag_reworded (r : Record) : (r.reworded h).tag = r.tag := hkeeps.tagOf [r.tag] r.head

theorem entries_reworded (r : Record) :
    (r.reworded h).entries = r.entries.map fun e => (e.1, h e.1 e.2) := by
  rw [entries, tag_reworded hkeeps, entries, List.map_cons]
  exact congrArg _ (Outline.entries_reworded hkeeps [r.tag] r.below)

theorem isLegible_reworded {r : Record} (hr : r.isLegible = true) :
    (r.reworded h).isLegible = true := by
  obtain ⟨hhead, hbelow⟩ := Bool.and_eq_true_iff.mp hr
  exact Bool.and_eq_true_iff.mpr
    ⟨hkeeps.isLegible [r.tag] hhead, Outline.isLegible_reworded hkeeps hbelow⟩

theorem reworded_reworded (hagain : ∀ path l, h path (h path l) = h path l) (r : Record) :
    (r.reworded h).reworded h = r.reworded h := by
  rw [reworded, tag_reworded hkeeps]
  exact congrArg₂ Record.mk (hagain [r.tag] r.head)
    (Outline.reworded_reworded hkeeps hagain [r.tag] r.below)

end Record
end KeepsHeadings

/-- A record whose lines are changed where operations reach them. -/
theorem Record.rewritten_changeAll {acts : List String → Bool} (hroot : acts [] = false)
    {g : Text → Text} (hg : ∀ l, g (g l) = g l) (r : Record) :
    r.rewritten (Outline.changeAll acts g) = (r.reworded (Outline.change acts g)).lines := by
  have hnothing : Outline.reached acts [] = false := by
    rw [Outline.reached, List.inits, List.any_cons, hroot]
    rfl
  have hmap : ((Outline.entry r.head r.below .empty).rewritten (Outline.changeAll acts g) []).map
      (Outline.change acts g []) = _ := Outline.map_change_rewritten hg [] _
  have hleft : ∀ ls : List Text, ls.map (Outline.change acts g []) = ls := by
    intro ls
    refine (List.map_congr_left fun l _ => ?_).trans (List.map_id ls)
    rw [Outline.change, hnothing, if_neg Bool.false_ne_true]
    rfl
  rw [hleft, Outline.rewritten, Outline.rewritten, List.append_nil] at hmap
  rw [rewritten, lines]
  refine hmap.trans ?_
  rw [Outline.reworded, Outline.reworded, Outline.lines, Outline.lines, List.append_nil]
  rfl

/-! ## Filters that rewrite lines -/

namespace Application
variable {a : Application} {f : List String → List Text → List Text}

/-- A filter whose operations make lines out of lines. -/
structure RewritesLines (a : Application) (f : List String → List Text → List Text) : Prop where
  keepsLines : a.KeepsLines
  newline : ∀ path ls, (∀ l ∈ ls, '\n' ∉ l) → ∀ l ∈ f path ls, '\n' ∉ l
  finishes : ∀ (g : Graph) {path : List String} {ls : List Text}, path ≠ [] → wildcard ∉ path →
    (∀ l ∈ ls, '\n' ∉ l) →
    Yields g
      (a.finish path (firstMatch a.rules.patterns path.dropLast)
        (firstMatch a.rules.patterns path) (Text.unlines ls)) (Text.unlines (f path ls))

/-- A filter makes lines out of lines if its rules are decisive and their operations do. -/
theorem Decisive.rewritesLines (ha : a.Decisive)
    (hnewline : ∀ path ls, (∀ l ∈ ls, '\n' ∉ l) → ∀ l ∈ f path ls, '\n' ∉ l)
    (hops : ∀ (g : Graph) {path ls rule}, a.ruleAt path = some rule → wildcard ∉ path →
      (∀ l ∈ ls, '\n' ∉ l) →
      Yields g (a.runOps rule.pattern.text rule.ops (Text.unlines ls))
        (Text.unlines (f path ls))) : a.RewritesLines f where
  keepsLines := ha.keepsLines
  newline := hnewline
  finishes g _ _ hpath hwildcard hls :=
    ha.yields_finish hpath hwildcard fun _ hat => hops g hat hwildcard hls

theorem newline_notMem_cons {level : Nat} {l : Text} {ls : List Text}
    (hl : Line.isLegible level l = true) (hls : ∀ m ∈ ls, '\n' ∉ m) : ∀ m ∈ l :: ls, '\n' ∉ m :=
  List.forall_mem_cons.mpr ⟨Line.newline_notMem_of_isLegible hl, hls⟩

namespace RewritesLines
variable (ha : a.RewritesLines f) {g : Graph}
include ha

theorem newline_notMem_rewritten {level : Nat} {path : List String} {o : Outline}
    (ho : o.isLegible level = true) : ∀ l ∈ o.rewritten f path, '\n' ∉ l := by
  induction o generalizing level path with
  | empty => exact List.forall_mem_nil _
  | entry l below after ihbelow ihafter =>
    obtain ⟨hl, hbelow, hafter⟩ := Outline.isLegible_entry.mp ho
    have hinner : ∀ m ∈ below.rewritten f (path ++ [Line.tagOf l]), '\n' ∉ m := ihbelow hbelow
    have hwhole := newline_notMem_cons hl hinner
    exact List.forall_mem_append.mpr ⟨ha.newline _ _ hwhole, ihafter hafter⟩

/-- **What is left of an outline** are its lines, rewritten from the inside out. -/
theorem yields_outlineRemnant {level : Nat} {path : List String} {o : Outline}
    (ho : o.isLegible level = true) (hwildcard : wildcard ∉ path) :
    Yields g (a.outlineRemnant path (firstMatch a.rules.patterns path) o)
      (Text.unlines (o.rewritten f path)) := by
  induction o generalizing level path with
  | empty => exact Yields.pure []
  | entry l below after ihbelow ihafter =>
    obtain ⟨hl, hbelow, hafter⟩ := Outline.isLegible_entry.mp ho
    have hwildcard' : wildcard ∉ path ++ [Line.tagOf l] := by
      rw [List.mem_append, List.mem_singleton, not_or]
      exact ⟨hwildcard, (Line.tagOf_ne_wildcard hl).symm⟩
    have hinner : ∀ m ∈ below.rewritten f (path ++ [Line.tagOf l]), '\n' ∉ m :=
      ha.newline_notMem_rewritten hbelow
    have hfinish := ha.finishes g (by simp) hwildcard' (newline_notMem_cons hl hinner)
    rw [List.dropLast_concat, Text.unlines_cons] at hfinish
    have hentry : Yields g
        (a.entryRemnant path (firstMatch a.rules.patterns path) l fun path found =>
          a.outlineRemnant path found below) _ :=
      ha.keepsLines.yields_entryRemnant (ihbelow hbelow hwildcard') hfinish
    refine hentry.bind ((ihafter hafter hwildcard).bind ?_)
    rw [Outline.rewritten, Text.unlines_append]
    exact Yields.pure _

/-- **What is left of a record** are its lines, rewritten from the inside out. -/
theorem yields_recordRemnant {r : Record} (hr : r.isLegible = true) :
    Yields g (a.recordRemnant r) (Text.unlines (r.rewritten f)) := by
  obtain ⟨hhead, hbelow⟩ := Bool.and_eq_true_iff.mp hr
  have hwildcard : wildcard ∉ [] ++ [r.tag] := by
    rw [List.nil_append, List.mem_singleton]
    exact (Line.tagOf_ne_wildcard hhead).symm
  have hinner : ∀ m ∈ r.below.rewritten f [r.tag], '\n' ∉ m := ha.newline_notMem_rewritten hbelow
  have hfinish := ha.finishes g (List.cons_ne_nil r.tag []) hwildcard
    (newline_notMem_cons hhead hinner)
  rw [Text.unlines_cons] at hfinish
  have hroot : firstMatch a.rules.patterns [] = none := firstMatch_nil _
  rw [recordRemnant, ← hroot]
  apply ha.keepsLines.yields_entryRemnant
  · exact ha.yields_outlineRemnant hbelow hwildcard
  · exact hfinish

/-- What is left of a transmission are the lines of its records, rewritten from the inside
out. -/
theorem run_delivers {ts : List Text} {rs : List Record} (hts : Delivers ts rs) (s : Run) :
    ∃ trace s', (a.run ts).run s =
      (.ok ((rs.map fun r => Text.unlines (r.rewritten f)).filter fun t => !t.isEmpty, trace),
        s') := by
  obtain ⟨g, hgraph⟩ := a.exists_references ts
  exact run_of_delivers hts hgraph (fun r hr => ha.yields_recordRemnant (hts.legible r hr)) s

end RewritesLines
end Application
end Gedcom
