import ResourceSql.Failure
import ResourceSql.Json.Printer
import ResourceSql.Value.Basic

/-!
# Values and documents

How a value becomes a JSON document and back.  Identifiers, dates and times
become text; a double that is not finite has no document of its own and becomes
null.  The way back takes a whole number as a signed one wherever it fits.
-/

namespace ResourceSql

namespace Value

mutual

def toJson : Value → Json
  | .null => .null
  | .bool b => .bool b
  | .int n => .int (WideInt.ofInt64 n)
  | .uint n => .int (WideInt.ofUInt64 n)
  | .float x => if x.isFinite then .float x else .null
  | .text s => .string s
  | .uuid u => .string u.text
  | .date d => .string d.text
  | .dateTime t => .string t.jsonText
  | .timestamp t => .string t.utcText
  | .list items => .array (toJsonItems items)
  | .object members => .object (toJsonBag members)

def toJsonItems : List Value → List Json
  | [] => []
  | item :: rest => item.toJson :: toJsonItems rest

def toJsonBag : Bag Value → Bag Json
  | ⟨entries⟩ => ⟨toJsonEntries entries⟩

def toJsonEntries : List (String × Value) → List (String × Json)
  | [] => []
  | (name, value) :: rest => (name, value.toJson) :: toJsonEntries rest

end

theorem toJsonItems_eq_map (items : List Value) : toJsonItems items = items.map toJson := by
  induction items with
  | nil => rfl
  | cons item rest ih => rw [toJsonItems, ih, List.map_cons]

theorem toJsonEntries_eq_map (entries : List (String × Value)) :
    toJsonEntries entries = entries.map fun entry => (entry.1, entry.2.toJson) := by
  induction entries with
  | nil => rfl
  | cons entry rest ih => rw [toJsonEntries, ih, List.map_cons]

theorem toJson_list (items : List Value) : toJson (.list items) = .array (items.map toJson) := by
  rw [toJson, toJsonItems_eq_map]

theorem toJson_object (members : Bag Value) :
    toJson (.object members) =
      .object ⟨members.entries.map fun entry => (entry.1, entry.2.toJson)⟩ := by
  obtain ⟨entries⟩ := members
  rw [toJson, toJsonBag, toJsonEntries_eq_map]

theorem names_toJsonBag (b : Bag Value) : (toJsonBag b).names = b.names := by
  obtain ⟨entries⟩ := b
  simp [toJsonBag, Bag.names, toJsonEntries_eq_map, List.map_map]

/-- A whole number as a value: signed where it fits. -/
def ofWideInt (n : WideInt) : Value :=
  if n.val < 0x8000000000000000 then .int (Int64.ofInt n.val) else .uint (UInt64.ofNat n.val.toNat)

mutual

def ofJson : Json → Value
  | .null => .null
  | .bool b => .bool b
  | .int n => ofWideInt n
  | .float x => .float x
  | .string s => .text s
  | .array items => .list (ofJsonItems items)
  | .object members => .object (ofJsonBag members)

def ofJsonItems : List Json → List Value
  | [] => []
  | item :: rest => ofJson item :: ofJsonItems rest

def ofJsonBag : Bag Json → Bag Value
  | ⟨entries⟩ => ⟨ofJsonEntries entries⟩

def ofJsonEntries : List (String × Json) → List (String × Value)
  | [] => []
  | (name, value) :: rest => (name, ofJson value) :: ofJsonEntries rest

end

theorem ofJsonItems_eq_map (items : List Json) : ofJsonItems items = items.map ofJson := by
  induction items with
  | nil => rfl
  | cons item rest ih => rw [ofJsonItems, ih, List.map_cons]

theorem ofJsonEntries_eq_map (entries : List (String × Json)) :
    ofJsonEntries entries = entries.map fun entry => (entry.1, ofJson entry.2) := by
  induction entries with
  | nil => rfl
  | cons entry rest ih => rw [ofJsonEntries, ih, List.map_cons]

theorem ofJson_array (items : List Json) : ofJson (.array items) = .list (items.map ofJson) := by
  rw [ofJson, ofJsonItems_eq_map]

theorem ofJson_object (members : Bag Json) :
    ofJson (.object members) =
      .object ⟨members.entries.map fun entry => (entry.1, ofJson entry.2)⟩ := by
  obtain ⟨entries⟩ := members
  rw [ofJson, ofJsonBag, ofJsonEntries_eq_map]

theorem names_ofJsonBag (b : Bag Json) : (ofJsonBag b).names = b.names := by
  obtain ⟨entries⟩ := b
  simp [ofJsonBag, Bag.names, ofJsonEntries_eq_map, List.map_map]

end Value

namespace Attributes

def toMembers (attributes : Attributes) : Bag Json := Value.toJsonBag attributes

def toJson (attributes : Attributes) : Json := .object attributes.toMembers

def ofMembers (members : Bag Json) : Attributes := Value.ofJsonBag members

/-- What attributes are after a trip through their document. -/
def throughJson (attributes : Attributes) : Attributes := ofMembers attributes.toMembers

/-!
## Attributes from data and into records

Attributes are taken from data whose document is an object, and are decoded, by
way of their own document, into a record.
-/

/-- The attributes of a document that is an object. -/
def ofJson : Json → Except Failure Attributes
  | .object members => .ok (ofMembers members)
  | other => .error (.codec (.notAnObject other))

def ofDatum (datum : Datum) : Except Failure Attributes := do
  let document ← datum.toJson.mapError fun cause => .codec (.encode cause)
  ofJson document

/-- The members of a record that attributes hold. -/
def decodeAs (attributes : Attributes) (shape : RecordShape) : Except Failure (Bag Json) :=
  (shape.decode attributes.toMembers).mapError fun cause => .codec (.decode cause)

end Attributes

end ResourceSql
