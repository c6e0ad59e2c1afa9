import Gedcom.Text

/-!
# Tag patterns

The tags from a record line down to a line form its path.  A pattern is written
as tags and wildcards joined by colons: `*` stands for any one tag, and at the
end also for any number of further tags.  An exclamation mark in front makes a
pattern excluding: what it matches is dropped.

Of a list of patterns the first one that matches a path decides, and an
excluding one decides that there is no match (`firstMatch`).
-/
namespace Gedcom

/-- The wildcard. -/
def wildcard : String := "*"

/-- The tags of a path or pattern body; nothing stands between two colons in a
row. -/
def tagsOf (path : Text) : List String :=
  (Text.fields (· == ':') path).map String.ofList

/-- Whether a pattern's tags match the tags of a path.  The tags agree one by
one, a wildcard agreeing with any tag.  If the pattern ends before the path,
its last tag is a wildcard.  If the path ends before the pattern, the path
itself ends in a wildcard. -/
def matchTags : (pattern path : List String) → Bool
  | [], _ => false
  | _, [] => false
  | [p], [t] => p == wildcard || p == t
  | [p], _ :: _ :: _ => p == wildcard
  | _ :: _ :: _, [t] => t == wildcard
  | p :: q :: ps, t :: u :: ts => (p == wildcard || p == t) && matchTags (q :: ps) (u :: ts)

/-- A wildcard by itself matches every path. -/
theorem matchTags_wildcard {path : List String} (hpath : path ≠ []) :
    matchTags [wildcard] path = true := by
  match path with
  | [_] => rfl
  | _ :: _ :: _ => rfl

/-- A pattern, as it is written. -/
structure Pattern where
  text : String
deriving DecidableEq, Repr

namespace Pattern

/-- Whether what the pattern matches is dropped. -/
def excludes (p : Pattern) : Bool := p.text.toList.head? = some '!'

/-- The pattern without its exclamation mark. -/
def body (p : Pattern) : Text :=
  match p.text.toList with
  | '!' :: t => t
  | t => t

/-- The tags and wildcards of the pattern. -/
def tags (p : Pattern) : List String := tagsOf p.body

/-- Whether a piece of a pattern is a tag in capitals or a wildcard. -/
def isToken (t : Text) : Bool :=
  t == ['*'] || !t.isEmpty && t.all fun c => c.isUpper || c.isDigit || c == '_'

/-- Whether the pattern is made of tags in capitals and wildcards, joined by
single colons. -/
def wellFormed (p : Pattern) : Bool := (Text.pieces (· == ':') p.body).all isToken

/-- Whether the pattern matches a path. -/
def admits (p : Pattern) (path : List String) : Bool := matchTags p.tags path

end Pattern

/-- The position of the pattern that decides on a path, unless none matches or
an excluding one decides. -/
def firstMatch : List Pattern → (path : List String) → Option Nat
  | [], _ => none
  | p :: ps, path =>
    if p.admits path then (if p.excludes then none else some 0)
    else (firstMatch ps path).map (· + 1)

end Gedcom
