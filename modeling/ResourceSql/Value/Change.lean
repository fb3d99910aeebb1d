import ResourceSql.Value.Basic

/-!
# Changes

The changes between two bags of attributes are what the later one says anew: every
name whose value does not equal the earlier one, in the order of the later bag.
Where both hold an object under the name, the changes between the two objects
stand for the whole.  A name that only the earlier bag has is no change.
-/

namespace ResourceSql

mutual

/-- What stands among the changes for a value that does not equal the earlier one. -/
def Value.changeFrom : Value → Option Value → Value
  | .object after, some (.object before) => .object (Value.bagChanges after before)
  | value, _ => value

def Value.bagChanges : Bag Value → Bag Value → Bag Value
  | ⟨entries⟩, before => ⟨Value.entryChanges entries before⟩

def Value.entryChanges : List (String × Value) → Bag Value → List (String × Value)
  | [], _ => []
  | (name, value) :: rest, before =>
    let old := before.get? name
    if old.any (·.equal value) then Value.entryChanges rest before
    else (name, value.changeFrom old) :: Value.entryChanges rest before

end

namespace Attributes

/-- What changed from `before` to `after`. -/
def changesSince (after before : Attributes) : Attributes := Value.bagChanges after before

/-- Whether every value of `after` equals the one of `before` under its name. -/
def isUnchangedSince (after before : Attributes) : Bool :=
  after.entries.all fun (name, value) => (before.get? name).any (·.equal value)

end Attributes

/-!
## Places in a document

Where a change reaches into a present object: the names on the way down, as far as
both sides hold objects, and the value to put at the end.  What the change does not
mention has no place, so it is left alone.
-/

/-- A place in a document: the names of the members on the way to it. -/
abbrev JsonPath := List String

namespace Value

mutual

/-- The places at which a change differs from the present value, with what to put
there: the change itself, or the places within it where both are objects. -/
def places (path : JsonPath) : Value → Option Value → List (JsonPath × Value)
  | .object change, some (.object present) => placesInBag path change present
  | change, _ => [(path, change)]

def placesInBag (path : JsonPath) : Bag Value → Bag Value → List (JsonPath × Value)
  | ⟨entries⟩, present => placesOfEntries path entries present

def placesOfEntries (path : JsonPath) :
    List (String × Value) → Bag Value → List (JsonPath × Value)
  | [], _ => []
  | (name, change) :: rest, present =>
    change.places (path ++ [name]) (present.get? name) ++ placesOfEntries path rest present

end

end Value

/-!
## Reported changes

What changes report at a place: the value there is reported by itself, unless it is an object
that meets an object.  Then only what is within is reported.
-/

/-- The value at a place, if the way to it leads through objects. -/
def Value.at? : Value → JsonPath → Option Value
  | v, [] => some v
  | .object members, name :: rest => (members.get? name).bind (·.at? rest)
  | _, _ :: _ => none

theorem Value.at?_object_cons (members : Bag Value) (name : String) (path : JsonPath) :
    (object members).at? (name :: path) = (members.get? name).bind (·.at? path) := rfl

namespace Attributes

def at? (b : Attributes) (path : JsonPath) : Option Value := Value.at? (.object b) path

/-- Changes to earlier attributes report a value at a place by itself: they have it there, and
it is no object where there was an object before. -/
def ReportAt (changes before : Attributes) (path : JsonPath) (v : Value) : Prop :=
  changes.at? path = some v ∧
    ¬ (v.isObject = true ∧ ∃ old, before.at? path = some old ∧ old.isObject = true)

/-- Attributes with the same names and, under each of them, values that are identical or equal. -/
def SameValues (a b : Attributes) : Prop :=
  (∀ name, name ∈ a.names ↔ name ∈ b.names) ∧
    ∀ name v w, a.get? name = some v → b.get? name = some w → v = w ∨ v.equal w = true

end Attributes

end ResourceSql
