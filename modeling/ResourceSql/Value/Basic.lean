import ResourceSql.Bag
import ResourceSql.Binary64
import ResourceSql.Calendar
import ResourceSql.Uuid

/-!
# Attribute values

A `Value` is one of the kinds of data that an attribute can hold, and `Attributes`
are a bag of values.  A nested object is such a bag again.

Comparison of values is kept apart from identity.  `Value.equal` compares doubles
by the floating-point rule at every depth, so a value that holds a NaN does not
even equal itself; kinds never equal each other, and objects are equal only with
their members in the same order.
-/

namespace ResourceSql

/-- A value of an attribute. -/
inductive Value where
  | null
  | bool (b : Bool)
  | int (n : Int64)
  /-- An unsigned whole number, meant for those beyond the signed ones. -/
  | uint (n : UInt64)
  | float (x : Binary64)
  | text (s : String)
  | uuid (u : Uuid)
  | date (d : Date)
  /-- A day and time without a zone. -/
  | dateTime (t : DateTime)
  /-- A day and time in UTC. -/
  | timestamp (t : DateTime)
  | list (items : List Value)
  | object (members : Bag Value)
deriving Inhabited

/-- The attributes of a resource: named values, in order. -/
abbrev Attributes := Bag Value

namespace Value

def isNull : Value → Bool
  | .null => true
  | _ => false

def isObject : Value → Bool
  | .object _ => true
  | _ => false

def asText? : Value → Option String
  | .text s => some s
  | _ => none

def asInt? : Value → Option Int64
  | .int n => some n
  | _ => none

def asObject? : Value → Option Attributes
  | .object members => some members
  | _ => none

/-- An unsigned number is kept as a signed one where it fits. -/
def ofUInt64 (n : UInt64) : Value :=
  if n.toNat < 0x8000000000000000 then .int (Int64.ofNat n.toNat) else .uint n

/-- A value that may be absent. -/
def ofOption : Option Value → Value
  | some value => value
  | none => .null

mutual

def equal : Value → Value → Bool
  | .null, .null => true
  | .bool a, .bool b => a == b
  | .int a, .int b => a == b
  | .uint a, .uint b => a == b
  | .float a, .float b => a.equal b
  | .text a, .text b => a == b
  | .uuid a, .uuid b => decide (a = b)
  | .date a, .date b => decide (a = b)
  | .dateTime a, .dateTime b => decide (a = b)
  | .timestamp a, .timestamp b => decide (a = b)
  | .list a, .list b => equalItems a b
  | .object a, .object b => equalBags a b
  | _, _ => false

def equalItems : List Value → List Value → Bool
  | [], [] => true
  | a :: as, b :: bs => a.equal b && equalItems as bs
  | _, _ => false

def equalBags : Bag Value → Bag Value → Bool
  | ⟨a⟩, ⟨b⟩ => equalEntries a b

def equalEntries : List (String × Value) → List (String × Value) → Bool
  | [], [] => true
  | (name, a) :: as, (other, b) :: bs => name == other && a.equal b && equalEntries as bs
  | _, _ => false

end

instance : BEq Value := ⟨equal⟩

end Value

namespace Attributes

/-- Comparison of attributes: equal values under the same names in the same order. -/
def equal (a b : Attributes) : Bool := Value.equalBags a b

/-- Follow a path of names through nested objects and change the bag at its end.
The path ends in the bag itself if it is empty; nothing changes if a name on the
way is missing or holds no object. -/
def modifyAt (b : Attributes) (path : List String) (change : Attributes → Attributes) : Attributes :=
  match path with
  | [] => change b
  | name :: rest =>
    match b.get? name with
    | some (.object inner) => b.insert name (.object (modifyAt inner rest change))
    | _ => b

def setAt (b : Attributes) (path : List String) (value : Value) : Attributes :=
  match path.getLast? with
  | some name => b.modifyAt path.dropLast (·.insert name value)
  | none => b

def removeAt (b : Attributes) (path : List String) : Attributes :=
  match path.getLast? with
  | some name => b.modifyAt path.dropLast (·.erase name)
  | none => b

end Attributes

end ResourceSql
