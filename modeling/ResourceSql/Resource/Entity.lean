import ResourceSql.Resource.Basic
import ResourceSql.Value.Change

/-!
# Entities

An entity is a resource that always has attributes.  It is made from attributes,
from a resource, or from a row of a table, in which the identifier is one of the
columns.
-/

namespace ResourceSql

/-- A resource with attributes. -/
structure Entity where
  typeName : String
  id : Option String := none
  attributes : Attributes

namespace Entity

/-- The entity of a resource; absent attributes become an empty bag. -/
def ofResource (r : Resource) : Entity :=
  { typeName := r.typeName, id := r.id, attributes := r.attributes.getD Bag.empty }

def toResource (e : Entity) : Resource :=
  { typeName := e.typeName, id := e.id, attributes := some e.attributes }

/-- The identifier that a column holds: text, a whole number as its decimal text,
or an identifier of 128 bits. -/
def idOfValue? : Value → Option String
  | .text s => some s
  | .int n => some (Digits.signed n.toInt)
  | .uint n => some (Digits.decimal n.toNat)
  | .uuid u => some u.text
  | _ => none

/-- The entity of a row: the column `id` is taken out of the attributes. -/
def ofRow (typeName : String) (row : Attributes) : Entity :=
  { typeName, id := (row.get? "id").bind idOfValue?, attributes := row.erase "id" }

def withId (e : Entity) (id : String) : Entity := { e with id := some id }

/-- What a transformation of the attributes changes; the entity itself stays. -/
def changes (e : Entity) (transform : Attributes → Attributes) : Attributes :=
  (transform e.attributes).changesSince e.attributes

/-- Comparison of entities, with attributes compared as values. -/
def equal (a b : Entity) : Bool :=
  a.typeName == b.typeName && a.id == b.id && a.attributes.equal b.attributes

instance : BEq Entity := ⟨equal⟩

end Entity

end ResourceSql
