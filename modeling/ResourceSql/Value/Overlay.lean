import ResourceSql.Value.Change

/-!
# Overlays

Changes laid over present attributes, one after the other.  Where both sides hold an
object the change goes on inside it, otherwise it takes the place of what is there
or comes at the end.  Whatever the changes do not mention stays.

A result agrees with the attributes that an update aims at if it has their values
wherever they speak, and what was there before wherever they do not.
-/

namespace ResourceSql

namespace Value

mutual

/-- A change laid over the value that it meets. -/
def overlaid : Value → Option Value → Value
  | .object change, some (.object present) => .object (overlaidBag change present)
  | change, _ => change

def overlaidBag : Bag Value → Bag Value → Bag Value
  | ⟨entries⟩, present => overlaidEntries entries present

def overlaidEntries : List (String × Value) → Bag Value → Bag Value
  | [], present => present
  | (name, change) :: rest, present =>
    overlaidEntries rest (present.insert name (change.overlaid (present.get? name)))

end

mutual

/-- A value of the result agrees with the one that is aimed at: inside, where that one
and the earlier one are objects, and by itself otherwise, identically or in comparison. -/
def Agrees : Value → Option Value → Value → Prop
  | .object after, some (.object before), result =>
    ∃ members, result = .object members ∧ AgreesBag after before members
  | after, _, result => result = after ∨ result.equal after = true

/-- A bag of the result agrees with the one that is aimed at, and has what was there
before under all other names. -/
def AgreesBag : Bag Value → Bag Value → Bag Value → Prop
  | ⟨entries⟩, before, result =>
    AgreesEntries entries before result ∧
      ∀ name, name ∉ entries.map (·.1) → result.get? name = before.get? name

/-- A bag of the result has a value that agrees under the name of every entry. -/
def AgreesEntries : List (String × Value) → Bag Value → Bag Value → Prop
  | [], _, _ => True
  | (name, after) :: rest, before, result =>
    (∃ value, result.get? name = some value ∧ after.Agrees (before.get? name) value) ∧
      AgreesEntries rest before result

end

end Value

namespace Attributes

/-- Attributes after the changes are laid over them. -/
def overlay (present changes : Attributes) : Attributes := Value.overlaidBag changes present

/-- The object at the end of a path of names. -/
def objectAt? (b : Attributes) : JsonPath → Option Attributes
  | [] => some b
  | name :: rest =>
    match b.get? name with
    | some (.object inner) => objectAt? inner rest
    | _ => none

end Attributes

end ResourceSql
