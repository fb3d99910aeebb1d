import ResourceSql.Json.Decode
import ResourceSql.Value.Codec

/-!
# Resources

A resource names its type and may carry an identifier and attributes.  A bare type
name, the identifier of a resource and an entity are resources with more or less
of this filled in.  Absent is kept apart from empty: a resource without attributes is
not one with an empty bag.

Resources and their identifiers have documents, with members in the order type,
id, attributes, and without those that are absent.  They are decoded from objects,
and from arrays that list the members in this order.
-/

namespace ResourceSql

structure Resource where
  typeName : String
  /-- The identifier within the type. -/
  id : Option String := none
  attributes : Option Attributes := none

/-- What identifies a resource. -/
structure ResourceIdentifier where
  typeName : String
  /-- The identifier within the type. -/
  id : String
deriving DecidableEq, Repr

/-- An identifier as a resource without attributes. -/
def ResourceIdentifier.toResource (r : ResourceIdentifier) : Resource :=
  { typeName := r.typeName, id := some r.id }

/-- The name that messages give to a resource. -/
def Resource.recordName : String := "ResourceObject"

/-- The name that messages give to an identifier. -/
def ResourceIdentifier.recordName : String := "ResourceIdentifier"

namespace Resource

/-- The identifier, unless it is absent or empty. -/
def usableId? (r : Resource) : Option String := r.id.filter fun id => !id.isEmpty

def toJson (r : Resource) : Json :=
  let id := r.id.toList.map fun id => ("id", Json.string id)
  let attributes := r.attributes.toList.map fun attributes => ("attributes", attributes.toJson)
  .object ⟨("type", .string r.typeName) :: id ++ attributes⟩

/-- Attributes: null for none, or an object. -/
def attributesOfJson (j : Json) : Except DecodeError (Option Attributes) := do
  let members ← Decode.nullable Decode.members j
  return members.map Attributes.ofMembers

/-- The members of a resource as far as they have been read. -/
structure Gathered where
  typeName : Option String := none
  id : Option String := none
  attributes : Option Attributes := none

/-- Read one more member of a resource. -/
def gather (gathered : Gathered) (name : String) (value : Json) :
    Except DecodeError Gathered :=
  if name = "type" then do
    let typeName ← Decode.text value
    return { gathered with typeName := some typeName }
  else if name = "id" then do
    let id ← Decode.nullable Decode.text value
    return { gathered with id := id }
  else if name = "attributes" then do
    let attributes ← attributesOfJson value
    return { gathered with attributes := attributes }
  else return gathered

def ofMembers (members : Bag Json) : Except DecodeError Resource := do
  let gathered ← Decode.visit gather {} members
  let typeName ← Decode.required "type" gathered.typeName
  return { typeName, id := gathered.id, attributes := gathered.attributes }

/-- Decode a resource from the elements of an array; those after the type may be
left out. -/
def ofElements : List Json → Except DecodeError Resource
  | [] => .error (.tooShort 0 recordName 3)
  | [first] => do
    let typeName ← Decode.text first
    return { typeName }
  | [first, second] => do
    let typeName ← Decode.text first
    let id ← Decode.nullable Decode.text second
    return { typeName, id }
  | first :: second :: third :: rest => do
    let typeName ← Decode.text first
    let id ← Decode.nullable Decode.text second
    let attributes ← attributesOfJson third
    if rest.isEmpty then return { typeName, id, attributes }
    else .error (.tooLong (rest.length + 3))

def ofJson : Json → Except DecodeError Resource
  | .object members => ofMembers members
  | .array elements => ofElements elements
  | j => Decode.wrongKind j (.record recordName)

end Resource

namespace ResourceIdentifier

def toJson (r : ResourceIdentifier) : Json :=
  .object ⟨[("type", .string r.typeName), ("id", .string r.id)]⟩

/-- The members of an identifier as far as they have been read. -/
structure Gathered where
  typeName : Option String := none
  id : Option String := none

def gather (gathered : Gathered) (name : String) (value : Json) :
    Except DecodeError Gathered :=
  if name = "type" then do
    let typeName ← Decode.text value
    return { gathered with typeName := some typeName }
  else if name = "id" then do
    let id ← Decode.text value
    return { gathered with id := some id }
  else return gathered

def ofMembers (members : Bag Json) : Except DecodeError ResourceIdentifier := do
  let gathered ← Decode.visit gather {} members
  let typeName ← Decode.required "type" gathered.typeName
  let id ← Decode.required "id" gathered.id
  return { typeName, id }

def ofElements : List Json → Except DecodeError ResourceIdentifier
  | [] => .error (.tooShort 0 recordName 2)
  | [first] => do
    let _ ← Decode.text first
    .error (.tooShort 1 recordName 2)
  | first :: second :: rest => do
    let typeName ← Decode.text first
    let id ← Decode.text second
    if rest.isEmpty then return { typeName, id }
    else .error (.tooLong (rest.length + 2))

def ofJson : Json → Except DecodeError ResourceIdentifier
  | .object members => ofMembers members
  | .array elements => ofElements elements
  | j => Decode.wrongKind j (.record recordName)

end ResourceIdentifier

end ResourceSql
