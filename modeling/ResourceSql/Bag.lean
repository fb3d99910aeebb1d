/-!
# Ordered bags

A `Bag` is a finite map from names to values that remembers the order in which
the names arrived.  Replacing the value of a known name keeps its place, a new
name goes to the end, and removing a name closes the gap.  Attribute sets and
JSON objects are both bags.

That no name occurs twice is kept apart from the data, as the predicate
`Bag.Unique`: a bag of values nests inside a value, where a proof field could
not be stated.  Every operation below keeps it.
-/

namespace ResourceSql

/-- Named values in the order in which the names were first inserted. -/
structure Bag (α : Type u) where
  /-- The names with their values, oldest name first. -/
  entries : List (String × α)
deriving Repr, DecidableEq

namespace Bag

variable {α : Type u}

def empty : Bag α := ⟨[]⟩

instance : EmptyCollection (Bag α) := ⟨empty⟩

instance : Inhabited (Bag α) := ⟨empty⟩

/-- The names, oldest first. -/
def names (b : Bag α) : List String := b.entries.map (·.1)

/-- The values, in the order of their names. -/
def values (b : Bag α) : List α := b.entries.map (·.2)

def size (b : Bag α) : Nat := b.entries.length

def isEmpty (b : Bag α) : Bool := b.entries.isEmpty

/-- No name occurs twice. -/
def Unique (b : Bag α) : Prop := b.names.Nodup

def get? (b : Bag α) (name : String) : Option α :=
  (b.entries.find? (·.1 == name)).map (·.2)

def contains (b : Bag α) (name : String) : Bool :=
  b.entries.any (·.1 == name)

/-- Put a value under a name in a list of entries: in the place of the name if
it occurs, at the end otherwise. -/
def insertEntry (name : String) (value : α) : List (String × α) → List (String × α)
  | [] => [(name, value)]
  | (other, old) :: rest =>
    if other = name then (name, value) :: rest
    else (other, old) :: insertEntry name value rest

/-- Put a value under a name.  A known name keeps its place. -/
def insert (b : Bag α) (name : String) (value : α) : Bag α :=
  ⟨insertEntry name value b.entries⟩

/-- Put a value under a name, and return the one it replaces. -/
def exchange (b : Bag α) (name : String) (value : α) : Option α × Bag α :=
  (b.get? name, b.insert name value)

def erase (b : Bag α) (name : String) : Bag α :=
  ⟨b.entries.eraseP (·.1 == name)⟩

/-- Remove a name, and return its value. -/
def extract (b : Bag α) (name : String) : Option α × Bag α :=
  (b.get? name, b.erase name)

def insertMany (b : Bag α) (entries : List (String × α)) : Bag α :=
  entries.foldl (fun acc entry => acc.insert entry.1 entry.2) b

/-- The bag that results from inserting the entries in order. -/
def ofList (entries : List (String × α)) : Bag α := empty.insertMany entries

/-- Change the value under a name, if it occurs. -/
def modify (b : Bag α) (name : String) (f : α → α) : Bag α :=
  match b.get? name with
  | some value => b.insert name (f value)
  | none => b

/-! ## What the operations do to the names and to look-ups -/

@[simp] theorem names_empty : (empty : Bag α).names = [] := rfl

theorem unique_empty : (empty : Bag α).Unique := by simp [Unique]

theorem contains_iff_mem_names (b : Bag α) (name : String) :
    b.contains name = true ↔ name ∈ b.names := by
  simp [contains, names]

theorem contains_eq_isSome_get? (b : Bag α) (name : String) :
    b.contains name = (b.get? name).isSome := by
  unfold contains get?
  induction b.entries with
  | nil => rfl
  | cons entry rest ih => by_cases h : entry.1 = name <;> simp_all

theorem map_fst_insertEntry (name : String) (value : α) (entries : List (String × α)) :
    (insertEntry name value entries).map (·.1) =
      if name ∈ entries.map (·.1) then entries.map (·.1) else entries.map (·.1) ++ [name] := by
  induction entries with
  | nil => rfl
  | cons entry rest ih =>
    obtain ⟨other, old⟩ := entry
    by_cases hother : other = name
    · simp [insertEntry, hother]
    · have hname : ¬name = other := fun h => hother h.symm
      simp only [insertEntry, hother, if_false, List.map_cons, ih, List.mem_cons, hname, false_or]
      split <;> rfl

/-- A known name keeps its place, and a new one goes to the end. -/
theorem names_insert (b : Bag α) (name : String) (value : α) :
    (b.insert name value).names =
      if name ∈ b.names then b.names else b.names ++ [name] :=
  map_fst_insertEntry name value b.entries

theorem unique_insert {b : Bag α} (hb : b.Unique) (name : String) (value : α) :
    (b.insert name value).Unique := by
  unfold Unique
  rw [names_insert]
  split
  · exact hb
  · rename_i hname
    rw [List.nodup_append]
    refine ⟨hb, by simp, ?_⟩
    intro x hx y hy hxy
    apply hname
    rw [List.mem_singleton] at hy
    rwa [← hy, ← hxy]

/-- The value that was inserted is found under its name. -/
theorem get?_insert_self (b : Bag α) (name : String) (value : α) :
    (b.insert name value).get? name = some value := by
  unfold get? insert
  induction b.entries with
  | nil => simp [insertEntry]
  | cons entry rest ih =>
    obtain ⟨other, old⟩ := entry
    by_cases hother : other = name
    · simp [insertEntry, hother]
    · simpa [insertEntry, hother] using ih

/-- An insertion does not touch the values under other names. -/
theorem get?_insert_of_ne (b : Bag α) {name other : String} (hne : other ≠ name) (value : α) :
    (b.insert name value).get? other = b.get? other := by
  unfold get? insert
  induction b.entries with
  | nil =>
    have hname : ¬name = other := fun h => hne h.symm
    simp [insertEntry, hname]
  | cons entry rest ih =>
    obtain ⟨first, old⟩ := entry
    by_cases hfirst : first = name
    · subst hfirst
      have hname : ¬first = other := fun h => hne h.symm
      simp [insertEntry, hname]
    · by_cases hsame : first = other
      · subst hsame
        simp [insertEntry, hfirst]
      · simpa [insertEntry, hfirst, hsame] using ih

/-- Removing a name from distinct names leaves the others in their order. -/
theorem names_erase {b : Bag α} (hb : b.Unique) (name : String) :
    (b.erase name).names = b.names.filter (· ≠ name) := by
  unfold Unique names at hb
  unfold names erase
  revert hb
  induction b.entries with
  | nil => intro _; rfl
  | cons entry rest ih =>
    intro hnodup
    obtain ⟨other, old⟩ := entry
    rw [List.map_cons, List.nodup_cons] at hnodup
    by_cases hother : other = name
    · subst hother
      have hrest : (rest.map (·.1)).filter (· ≠ other) = rest.map (·.1) := by
        rw [List.filter_eq_self]
        intro x hx
        have hxo : x ≠ other := fun h => hnodup.1 (h ▸ hx)
        simpa using hxo
      simpa using hrest.symm
    · have hrec := ih hnodup.2
      simpa [hother] using hrec

theorem unique_erase {b : Bag α} (hb : b.Unique) (name : String) : (b.erase name).Unique := by
  unfold Unique
  rw [names_erase hb]
  exact List.Pairwise.filter _ hb

theorem unique_insertMany {b : Bag α} (hb : b.Unique) (entries : List (String × α)) :
    (b.insertMany entries).Unique := by
  unfold insertMany
  induction entries generalizing b with
  | nil => exact hb
  | cons entry rest ih => exact ih (unique_insert hb entry.1 entry.2)

/-- A bag built from a list has distinct names, whatever the list repeats. -/
theorem unique_ofList (entries : List (String × α)) : (ofList entries).Unique :=
  unique_insertMany unique_empty entries

end Bag

end ResourceSql
