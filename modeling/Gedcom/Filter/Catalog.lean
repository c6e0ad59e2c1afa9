import Gedcom.Filter.Cleaner

/-!
# The catalog of filters

The filters that every registry can start from.  Most of them are tables of
rules; the cleaners look at references.
-/
namespace Gedcom.Catalog

/-- A filter that keeps or drops what some patterns match, and changes nothing. -/
def passing (name : String) (patterns : List String) : Filter where
  name
  rules _ := .ofPatterns patterns

/-- Keep everything. -/
def allRecords : Filter := passing "AllRecords" ["*"]

/-- Keep the header, submitters and the trailer only. -/
def noRecords : Filter :=
  passing "NoRecords" ["HEAD", "HEAD:*", "SUBM", "SUBM:*", "TRLR"]

/-- Drop the data of changes. -/
def removeChangeData : Filter :=
  passing "RemoveChangeData" ["!*:CHAN", "!*:CHAN:*", "*"]

/-- Patterns that drop a tag at the first four positions of a path, and keep
everything else. -/
def withoutTag (tag : String) : List String :=
  ((List.range 4).flatMap fun depth =>
    let path := String.join (List.replicate depth "*:") ++ tag
    ["!" ++ path, "!" ++ path ++ ":*"]) ++ ["*"]

/-- Drop all notes. -/
def removeAllNotes : Filter := passing "RemoveAllNotes" (withoutTag "NOTE")

/-- Drop all media objects. -/
def removeAllMediaObjects : Filter := passing "RemoveAllMediaObjects" (withoutTag "OBJE")

/-- Drop all sources and citations; the header keeps the name of the system that
wrote it. -/
def removeAllSources : Filter :=
  passing "RemoveAllSources" (["HEAD:SOUR", "HEAD:SOUR:*"] ++ withoutTag "SOUR")

/-- Drop the tasks of researchers. -/
def removeToDoData : Filter :=
  passing "RemoveToDoData" ["!FAM:_TODO", "!FAM:_TODO:*", "!INDI:_TODO", "!INDI:_TODO:*", "*"]

/-- Drop restriction notices. -/
def removeRestrictions : Filter :=
  passing "RemoveRestrictions" ["!*:RESN", "!*:*:RESN", "!*:*:*:RESN", "*"]

/-- Drop the names of users that are noted with tasks and changes. -/
def removeUserNames : Filter :=
  passing "RemoveWebtreesUser" ["!*:_TODO:_WT_USER", "!*:CHAN:_WT_USER", "*"]

/-- Keep everything, and have long values wrapped without blanks at the ends. -/
def avoidLeadingSpaces : Filter :=
  { passing "AvoidLeadingSpacesForCONC" ["*"] with wrapsTightly := true }

/-! ### Dates -/

/-- The parts of a date in the order in which they are kept: interpreted dates,
qualifiers, the first year of a range, the year, and what follows. -/
def dateParts : String :=
  "(INT )*(ABT |CAL |EST |AFT |BEF |BET )*(?:.*([\\d]\x7b4\x7d AND ))*.*([\\d]\x7b4\x7d)( .*)*"

/-- Reduce every date to its year; the dates of the header, of sources, of
changes and of place names are kept. -/
def reduceDates : Filter where
  name := "ReduceDatesToYears"
  rules _ :=
    .ofList <|
      ["HEAD:DATE", "HEAD:SOUR:DATA:DATE", "SOUR:DATA:EVEN:DATE", "SOUR:DATA:DATE", "*:CHAN:DATE",
        "_LOC:NAME:DATE"].map (fun p => (p, [])) ++
      ["*:DATE", "*:*:DATE", "*:*:*:DATE", "*:*:*:*:DATE"].map
        (fun p => (p, [.useMacro "DateToYear"])) ++
      [("*", [])]
  macros := .ofList
    [("DateToYear", [⟨"([\\d]) DATE " ++ dateParts, "$1 DATE $2$3$4$5$6"⟩])]

/-! ### Individuals -/

/-- The search for an individual of whom nothing is told but a number of
families and then a sex. -/
def minimalIndividual (families : Nat) : String :=
  "0 @([A-Za-z0-9:_.-]\x7b1,20\x7d)@ INDI\\n" ++
    String.join (List.replicate families "1 (FAMC|FAMS) @[A-Za-z0-9:_.-]\x7b1,20\x7d@\\n") ++
    "1 SEX [\\w]\\n$"

/-- Reduce individuals of whom nothing but sex and up to two families is told to
the line of their record. -/
def reduceMinimalIndividuals : Filter where
  name := "ReduceMinimalIndividuals"
  rules _ :=
    .ofList
      [("INDI", [0, 1, 2].map fun n => .substitute ⟨minimalIndividual n, "0 @$1@ INDI\n"⟩),
       ("*", [])]

/-! ### Births, marriages and deaths -/

/-- The address of a tree. -/
def treeAddress : String := "%BASE_URL%/tree/%TREE%"

/-- Cite the page of a record as its source. -/
def citation (tag page : String) : Op :=
  .substitute
    ⟨"0 @([^@]+)@ " ++ tag ++ "\\n",
     "0 @$1@ " ++ tag ++ "\n1 SOUR @S1@\n2 PAGE " ++ treeAddress ++ "/" ++ page ++ "/$1\n"⟩

/-- Mark an event of which nothing else is left as having happened. -/
def happened (line : String) : Op := .substitute ⟨line ++ "\\n$", line ++ " Y\n"⟩

/-- Keep births, marriages and deaths only, with dates reduced to years, and cite
the pages of individuals and families as sources. -/
def birthMarriageDeath : Filter where
  name := "BirthMarriageDeath"
  rules _ :=
    let keep := List.map fun p : String => (p, ([] : List Op))
    .ofList <|
      keep ["HEAD", "HEAD:SOUR", "HEAD:SUBM", "HEAD:GEDC", "HEAD:GEDC:VERS", "HEAD:GEDC:FORM",
        "HEAD:CHAR"] ++
      [("INDI", [citation "INDI" "individual", .useMacro "DateToYear"])] ++
      keep ["INDI:NAME", "INDI:NAME:TYPE", "INDI:SEX"] ++
      [("INDI:BIRT", [happened "1 BIRT"])] ++
      keep ["INDI:BIRT:DATE", "INDI:BIRT:PLAC"] ++
      [("INDI:CHR", [happened "1 CHR"])] ++
      keep ["INDI:CHR:DATE", "INDI:CHR:PLAC", "INDI:BAPM", "INDI:BAPM:DATE", "INDI:BAPM:PLAC"] ++
      [("INDI:DEAT", [happened "1 DEAT"])] ++
      keep ["INDI:DEAT:DATE", "INDI:DEAT:PLAC", "INDI:FAMC", "!INDI:FAMC:NOTE", "INDI:FAMC:*",
        "INDI:FAMS"] ++
      [("FAM", [citation "FAM" "family", .useMacro "DateToYear"])] ++
      keep ["FAM:HUSB", "FAM:WIFE", "FAM:CHIL"] ++
      [("FAM:MARR", [happened "1 MARR"])] ++
      keep ["FAM:MARR:DATE", "FAM:MARR:PLAC", "FAM:MARR:TYPE", "SUBM", "SUBM:NAME"] ++
      [("TRLR",
        [.substitute ⟨"0 TRLR\\n", "0 @S1@ SOUR\n1 TITL " ++ treeAddress ++ "/\n0 TRLR\n"⟩])]
  macros := .ofList
    [("DateToYear", [⟨"2 DATE " ++ dateParts ++ "\\n", "2 DATE $1$2$3$4$5\n"⟩])]
  after := ["RemoveEmptyRecords"]

/-- Keep births, marriages and deaths, and then drop empty records. -/
def combined : Filter :=
  { passing "Combined" ["*"] with before := ["BirthMarriageDeath", "RemoveEmptyRecords"] }

/-- All filters of the catalog. -/
def filters : List Filter :=
  [allRecords, noRecords, removeChangeData, removeAllNotes, removeAllMediaObjects,
    removeAllSources, removeToDoData, removeRestrictions, removeUserNames, avoidLeadingSpaces,
    reduceDates, reduceMinimalIndividuals, Cleaner.emptyOrUnlinked.toFilter,
    Cleaner.emptyOnly.toFilter, VoidPointers.filter, birthMarriageDeath, combined]

end Gedcom.Catalog
