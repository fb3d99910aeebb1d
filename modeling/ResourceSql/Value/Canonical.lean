import ResourceSql.Value.Codec
import ResourceSql.Value.Within

/-!
# Canonical values

Several values can have the same document: a small whole number is the same document
signed and unsigned, an identifier is the same as its text, and every double that is not
finite is the same as null.  Canonical values are the ones that documents are taken back to.
-/

namespace ResourceSql

namespace Value

/-- Whether documents have a kind for the value, whatever they have for its parts. -/
def isNative : Value → Bool
  | .uint n => decide (0x8000000000000000 ≤ n.toNat)
  | .float x => x.isFinite
  | .uuid _ => false
  | .date _ => false
  | .dateTime _ => false
  | .timestamp _ => false
  | _ => true

/-- Documents have a kind for every part of the value. -/
def Canonical (v : Value) : Prop := ∀ part, Within part v → part.isNative = true

theorem canonical_object_iff {members : Bag Value} :
    Canonical (.object members) ↔ ∀ entry ∈ members.entries, Canonical entry.2 :=
  forall_within_object_iff.trans (and_iff_right rfl)

theorem canonical_list_iff {items : List Value} :
    Canonical (.list items) ↔ ∀ v ∈ items, Canonical v :=
  forall_within_list_iff.trans (and_iff_right rfl)

theorem canonical_atom {v : Value} (hobject : ∀ members, v ≠ .object members)
    (hlist : ∀ items, v ≠ .list items) (hnative : v.isNative = true) : v.Canonical := by
  intro part hpart
  rwa [eq_of_within_atom hobject hlist hpart]

end Value

/-- Documents have a kind for every value among the attributes, at every depth. -/
def Attributes.Canonical (attributes : Attributes) : Prop :=
  ∀ entry ∈ attributes.entries, entry.2.Canonical

theorem Attributes.canonical_iff {attributes : Attributes} :
    attributes.Canonical ↔ (Value.object attributes).Canonical :=
  Value.canonical_object_iff.symm

/-!
## Values with null for numbers that are not finite

Documents have no infinities and no NaN.  What a document keeps of a value is the value with
null in the place of each of them, at every depth.
-/

namespace Value

mutual

/-- A value with null in the place of every double that is not finite. -/
def nulled : Value → Value
  | .float x => if x.isFinite then .float x else .null
  | .list items => .list (nulledItems items)
  | .object members => .object (nulledBag members)
  | v => v

def nulledItems : List Value → List Value
  | [] => []
  | item :: rest => item.nulled :: nulledItems rest

def nulledBag : Bag Value → Bag Value
  | ⟨entries⟩ => ⟨nulledEntries entries⟩

def nulledEntries : List (String × Value) → List (String × Value)
  | [] => []
  | (name, value) :: rest => (name, value.nulled) :: nulledEntries rest

end

theorem nulledItems_eq_map (items : List Value) : nulledItems items = items.map nulled := by
  induction items with
  | nil => rfl
  | cons item rest ih => rw [nulledItems, ih, List.map_cons]

theorem nulledEntries_eq_map (entries : List (String × Value)) :
    nulledEntries entries = entries.map fun entry => (entry.1, entry.2.nulled) := by
  induction entries with
  | nil => rfl
  | cons entry rest ih => rw [nulledEntries, ih, List.map_cons]

theorem nulled_list (items : List Value) : nulled (.list items) = .list (items.map nulled) := by
  rw [nulled, nulledItems_eq_map]

theorem nulled_object (members : Bag Value) :
    nulled (.object members) =
      .object ⟨members.entries.map fun entry => (entry.1, entry.2.nulled)⟩ := by
  obtain ⟨entries⟩ := members
  rw [nulled, nulledBag, nulledEntries_eq_map]

end Value

end ResourceSql
