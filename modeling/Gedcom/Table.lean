/-!
# Tables

A table gives values to names and lists them in the order of their characters.
Parameters, macros, registered filters and traces are tables.  Every operation
keeps the order (`insert_sorted`), so that the listing of a table does not
depend on the order in which names were given (`find?_insert`).
-/
namespace Gedcom

/-- Values by name, in ascending order of the names. -/
structure Table (α : Type) where
  entries : List (String × α) := []
deriving DecidableEq, Repr

namespace Table

variable {α : Type}

/-- Put a value into some entries, in the place of its name. -/
def insertEntry (name : String) (value : α) : List (String × α) → List (String × α)
  | [] => [(name, value)]
  | (n, v) :: rest =>
    if name < n then (name, value) :: (n, v) :: rest
    else if name = n then (name, value) :: rest
    else (n, v) :: insertEntry name value rest

/-- Give a value to a name, in place of an earlier one. -/
def insert (t : Table α) (name : String) (value : α) : Table α :=
  ⟨insertEntry name value t.entries⟩

/-- The value of a name. -/
def find? (t : Table α) (name : String) : Option α := t.entries.lookup name

/-- Whether a name has a value. -/
def contains (t : Table α) (name : String) : Bool := (t.find? name).isSome

/-- The names of a table, in order. -/
def names (t : Table α) : List String := t.entries.map (·.1)

/-- The number of names. -/
def size (t : Table α) : Nat := t.entries.length

/-- Whether a table has no names. -/
def isEmpty (t : Table α) : Bool := t.entries.isEmpty

/-- The table of some pairs; the last pair of a name counts. -/
def ofList (pairs : List (String × α)) : Table α :=
  pairs.foldl (fun t p => t.insert p.1 p.2) {}

/-- A table with every value mapped. -/
def map {β : Type} (f : α → β) (t : Table α) : Table β :=
  ⟨t.entries.map fun p => (p.1, f p.2)⟩

/-- The names of the entries are strictly ascending. -/
def Sorted (t : Table α) : Prop := t.entries.Pairwise fun a b => a.1 < b.1

theorem mem_insertEntry {name : String} {value : α} {p : String × α}
    {es : List (String × α)} (h : p ∈ insertEntry name value es) :
    p = (name, value) ∨ p ∈ es := by
  induction es with
  | nil => simpa [insertEntry] using h
  | cons e es ih =>
    unfold insertEntry at h
    split at h
    · simpa using h
    · split at h
      · rcases List.mem_cons.1 h with h | h
        · exact .inl h
        · exact .inr (List.mem_cons_of_mem _ h)
      · rcases List.mem_cons.1 h with h | h
        · exact .inr (h ▸ List.mem_cons_self)
        · exact (ih h).imp_right (List.mem_cons_of_mem _)

/-- Inserting keeps the order of the names. -/
theorem insert_sorted {t : Table α} (h : t.Sorted) (name : String) (value : α) :
    (t.insert name value).Sorted := by
  obtain ⟨es⟩ := t
  simp only [Sorted, insert] at h ⊢
  induction es with
  | nil => simp [insertEntry]
  | cons e es ih =>
    obtain ⟨hhead, htail⟩ := List.pairwise_cons.1 h
    unfold insertEntry
    split
    · rename_i hlt
      refine List.pairwise_cons.2 ⟨fun p hp => ?_, h⟩
      rcases List.mem_cons.1 hp with hp | hp
      · exact hp ▸ hlt
      · exact String.lt_trans hlt (hhead p hp)
    · split
      · rename_i heq
        exact List.pairwise_cons.2 ⟨fun p hp => heq ▸ hhead p hp, htail⟩
      · rename_i hnlt hne
        refine List.pairwise_cons.2 ⟨fun p hp => ?_, ih htail⟩
        rcases mem_insertEntry hp with hp | hp
        · subst hp
          exact Classical.byContradiction fun hn =>
            hne (String.le_antisymm (String.not_lt.1 hn) (String.not_lt.1 hnlt))
        · exact hhead p hp

/-- The table of some pairs is in order. -/
theorem ofList_sorted (pairs : List (String × α)) : (ofList pairs).Sorted := by
  have hsorted : ∀ t : Table α, t.Sorted →
      (pairs.foldl (fun t p => t.insert p.1 p.2) t).Sorted := by
    induction pairs with
    | nil => exact fun t ht => ht
    | cons p pairs ih => exact fun t ht => ih _ (insert_sorted ht p.1 p.2)
  exact hsorted {} List.Pairwise.nil

theorem mem_names_insert (t : Table α) (name other : String) (value : α) :
    other ∈ (t.insert name value).names ↔ other = name ∨ other ∈ t.names := by
  obtain ⟨es⟩ := t
  simp only [names, insert]
  induction es with
  | nil => exact List.mem_cons
  | cons e es ih =>
    unfold insertEntry
    split
    · exact List.mem_cons
    · split
      · rename_i hname
        rw [List.map_cons, List.map_cons, List.mem_cons, List.mem_cons, ← hname, or_self_left]
      · rw [List.map_cons, List.map_cons, List.mem_cons, List.mem_cons, ih, or_left_comm]

/-- The names of the table of some pairs are those of the pairs. -/
theorem mem_names_ofList (pairs : List (String × α)) (name : String) :
    name ∈ (ofList pairs).names ↔ name ∈ pairs.map (·.1) := by
  have hnames : ∀ t : Table α, name ∈ (pairs.foldl (fun t p => t.insert p.1 p.2) t).names ↔
      name ∈ t.names ∨ name ∈ pairs.map (·.1) := by
    induction pairs with
    | nil => exact fun t => by simp
    | cons p pairs ih =>
      intro t
      rw [List.foldl_cons, ih, mem_names_insert, List.map_cons, List.mem_cons, or_assoc,
        or_left_comm]
  exact (hnames {}).trans (or_iff_right List.not_mem_nil)

theorem mem_foldl_insert {pairs : List (String × α)} {t : Table α} {p : String × α}
    (h : p ∈ (pairs.foldl (fun t p => t.insert p.1 p.2) t).entries) :
    p ∈ t.entries ∨ p ∈ pairs := by
  induction pairs generalizing t with
  | nil => exact .inl h
  | cons q pairs ih =>
    rcases ih h with h | h
    · rcases mem_insertEntry h with rfl | h
      · exact .inr List.mem_cons_self
      · exact .inl h
    · exact .inr (List.mem_cons_of_mem _ h)

/-- The value of a name in the table of some pairs is that of one of the pairs. -/
theorem mem_of_find?_ofList {pairs : List (String × α)} {name : String} {value : α}
    (h : (ofList pairs).find? name = some value) : (name, value) ∈ pairs := by
  obtain ⟨before, after, hentries, _⟩ := List.lookup_eq_some_iff.mp h
  have hmem : (name, value) ∈ (ofList pairs).entries := by
    rw [hentries]
    exact List.mem_append_right _ List.mem_cons_self
  exact (mem_foldl_insert hmem).resolve_left List.not_mem_nil

theorem lookup_entry (other n : String) (v : α) (es : List (String × α)) :
    ((n, v) :: es).lookup other = if other = n then some v else es.lookup other := by
  rw [List.lookup_cons]
  by_cases h : other = n
  · simp [h]
  · rw [if_neg h, beq_eq_false_iff_ne.2 h]

/-- The names of a table are those that have a value. -/
theorem mem_names_iff (t : Table α) (name : String) :
    name ∈ t.names ↔ ∃ value, t.find? name = some value := by
  obtain ⟨es⟩ := t
  simp only [names, find?]
  induction es with
  | nil => simp
  | cons e es ih =>
    rw [List.map_cons, List.mem_cons, lookup_entry]
    by_cases h : name = e.1
    · simp [h]
    · rw [if_neg h, or_iff_right h, ih]

theorem lookup_insertEntry (name other : String) (value : α) (es : List (String × α)) :
    (insertEntry name value es).lookup other =
      if other = name then some value else es.lookup other := by
  induction es with
  | nil => simp [insertEntry, lookup_entry]
  | cons e es ih =>
    obtain ⟨n, v⟩ := e
    unfold insertEntry
    split
    · simp [lookup_entry]
    · split
      · rename_i heq
        subst heq
        by_cases h : other = name <;> simp [lookup_entry, h]
      · rename_i hne
        by_cases h : other = name
        · subst h
          simp [lookup_entry, ih, hne]
        · simp [lookup_entry, ih, h]

/-- After an insertion a name has the value given, and other names keep theirs. -/
theorem find?_insert (t : Table α) (name other : String) (value : α) :
    (t.insert name value).find? other = if other = name then some value else t.find? other :=
  lookup_insertEntry name other value t.entries

end Table
end Gedcom
