import Gedcom.Filter

/-!
# Filters that look at references

A cleaner drops records that hold nothing, records to which no other record
refers, and lines that point to a record that holds nothing.  Another filter
drops the lines that point to a record that is never defined.  Both look at the
pruned reference graph of the records they are applied to.
-/
namespace Gedcom

/-- What a cleaner does. -/
structure Cleaner where
  name : String
  /-- Whether records that hold nothing are dropped. -/
  dropsEmpty : Bool := true
  /-- Whether records that no other record refers to are dropped, individuals
  apart. -/
  dropsUnlinked : Bool := true
  /-- Whether lines that point to a record that holds nothing are dropped. -/
  dropsVoidPointers : Bool := true
  /-- Whether an individual of whom nothing but sex and families is told is
  reduced to the line of its record. -/
  reducesMinimal : Bool := false
deriving DecidableEq, Repr

namespace Cleaner

/-- The cleaner of records that are empty or that no other record refers to. -/
def emptyOrUnlinked : Cleaner := { name := "RemoveEmptyOrUnlinkedRecords" }

/-- The cleaner of empty records. -/
def emptyOnly : Cleaner := { name := "RemoveEmptyRecords", dropsUnlinked := false }

/-- What is left of the record with an identifier. -/
def cleanRecord (k : Cleaner) (pattern : String) (t : Text) (xref : String) (g : Graph) : Text :=
  match g.find? xref with
  | none => t
  | some n =>
    -- an individual may stand alone, but not hold nothing
    if k.dropsEmpty && n.empty
        || pattern != "INDI" && k.dropsUnlinked && !g.isReferenced xref then []
    else if pattern == "INDI" && k.reducesMinimal && n.minimal then
      Line.render { level := 0, xref, tag := "INDI" } ++ ['\n']
    else t

/-- What is left of a structure that is no record. -/
def cleanStructure (k : Cleaner) (t : Text) (g : Graph) : Text :=
  if !k.dropsVoidPointers then t
  else match Line.ofLine? (Text.firstLine t) with
    | none => t
    | some line => if line.pointer?.any g.isEmptyRecord then [] else t

/-- How a cleaner converts structures. -/
def hook (k : Cleaner) : Hook := fun pattern t _ g =>
  match Line.recordXref? t with
  | some xref => .ok (k.cleanRecord pattern t xref g, g)
  | none => .ok (k.cleanStructure t g, g)

/-- The rules that hand records and pointers to a cleaner. -/
def rules : RuleSet :=
  .ofList <|
    ["HEAD", "HEAD:*"].map (fun p => (p, [])) ++
    ["FAM:CHIL", "FAM:HUSB", "FAM:WIFE", "FAM:*:_ASSO", "INDI:ALIA", "INDI:ASSO", "INDI:*:_ASSO",
      "*:NOTE", "*:*:NOTE", "*:*:*:NOTE", "*:OBJE", "*:*:OBJE", "*:*:*:OBJE", "*:*:*:*:OBJE",
      "SOUR:REPO", "*:SOUR", "*:*:SOUR", "*:*:*:SOUR",
      "FAM", "INDI", "NOTE", "OBJE", "REPO", "SOUR", "_LOC"].map (fun p => (p, [.convert])) ++
    [("*", [])]

/-- The filter of a cleaner. -/
def toFilter (k : Cleaner) : Filter where
  name := k.name
  rules _ := rules
  usesReferences := true
  hook := some k.hook

end Cleaner

namespace VoidPointers

/-- Drop a structure whose first line points to a record that is referred to but
never defined. -/
def hook : Hook := fun _ t _ g =>
  match Line.ofLine? (Text.firstLine t) with
  | none => .ok (t, g)
  | some line =>
    if line.pointer?.any fun xref => (g.find? xref).any (·.type.isNone) then .ok ([], g)
    else .ok (t, g)

/-- The rules that hand pointers to the filter. -/
def rules : RuleSet :=
  .ofList <|
    ["*:NOTE", "*:*:NOTE", "*:*:*:NOTE", "*:OBJE", "*:*:OBJE", "*:*:*:OBJE", "*:*:*:*:OBJE",
      "*:SOUR", "*:*:SOUR", "*:*:*:SOUR", "HEAD:*", "FAM:*:_ASSO", "FAM:*", "INDI:*:_ASSO",
      "INDI:*", "SOUR:REPO"].map (fun p => (p, [.convert])) ++
    [("*", [])]

/-- The filter that drops pointers to records that are never defined. -/
def filter : Filter where
  name := "RemoveVoidReferences"
  rules _ := rules
  usesReferences := true
  hook := some hook

end VoidPointers
end Gedcom
