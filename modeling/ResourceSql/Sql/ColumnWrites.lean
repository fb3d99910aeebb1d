import ResourceSql.Sql.MergeReader

/-!
# What an update does to its columns

The items of a SET clause, read from the tokens of an update alone.  A comma divides two
items unless it is inside parentheses.  An item either sets places within the document that
its column holds, or puts a new value in the place of whatever the column holds.

What an item is expected to do follows from the entry of the changes that asked for it, and
from the present attributes: to merge an object, and so to keep the members that it does not
name, wherever its column is that of an attribute that holds an object.
-/

namespace ResourceSql

namespace Sql

/-- How many parentheses are open after a token. -/
def depthAfter (depth : Nat) : Token → Nat
  | .symbol '(' => depth + 1
  | .symbol ')' => depth - 1
  | _ => depth

/-- The items that commas outside parentheses divide, read on in the first of them. -/
def items (depth : Nat) (item : List Token) : List Token → List (List Token)
  | [] => [item]
  | t :: rest =>
    if depth = 0 ∧ t = .symbol ',' then item :: items 0 [] rest
    else items (depthAfter depth t) (item ++ [t]) rest

/-- What an item of a SET clause does to its column. -/
inductive ColumnWrite where
  /-- It sets places within the document of the column. -/
  | merged (column : String) (places : List (JsonPath × Argument))
  /-- It puts a value in the place of what the column holds. -/
  | replaced (column : String) (value : Token)
deriving DecidableEq

/-- What the tokens of an item do to its column. -/
def columnWrite? (item : List Token) : Option ColumnWrite :=
  match merge? item, item with
  | some (column, places), _ => some (.merged column places)
  | none, [.identifier column, .symbol '=', value] => some (.replaced column value)
  | none, _ => none

/-- What the tokens of an update do to columns, item by item. -/
def columnWrites? : List Token → Option (List ColumnWrite)
  | .word "UPDATE" :: .identifier _ :: .word "SET" :: rest =>
    (items 0 [] (rest.takeWhile (· != .word "WHERE"))).mapM columnWrite?
  | _ => none

/-- What the text of an update does to columns; `none` if it is not the text of an update. -/
def columnWritesOf? (sql : String) : Option (List ColumnWrite) :=
  (lex? sql.toList).bind columnWrites?

end Sql

/-- Some attribute with the column holds an object. -/
def Attributes.HoldsObject (present : Attributes) (column : String) : Prop :=
  ∃ held ∈ present.entries, StorageName.column held.1 = column ∧ held.2.isObject = true

namespace Sql.ColumnWrite

/-- What is done to a column for a change: if the attribute of that very name and the change
are both objects then the places of the change are set, and otherwise the change takes the
place of what the column holds. -/
def Carries (present : Attributes) (entry : String × Value) : ColumnWrite → Prop
  | .merged column places =>
    column = StorageName.column entry.1 ∧
      ∃ members inner, entry.2 = .object members ∧ present.get? entry.1 = some (.object inner) ∧
        places = (Value.placesInBag [] members inner).map
          fun (path, value) => (path, value.argument)
  | .replaced column value =>
    column = StorageName.column entry.1 ∧ value = entry.2.token ∧
      ∀ members inner, entry.2 = .object members → present.get? entry.1 = some (.object inner) →
        False

/-- If a change is an object, and its column is that of an attribute that holds an object,
then it is merged, and all places that are set are in members that it names. -/
def KeepsSiblings (present : Attributes) (entry : String × Value) (write : ColumnWrite) : Prop :=
  ∀ members, entry.2 = .object members → present.HoldsObject (StorageName.column entry.1) →
    ∃ places, write = .merged (StorageName.column entry.1) places ∧
      ∀ place ∈ places, ∃ name ∈ members.names, place.1.head? = some name

end Sql.ColumnWrite

end ResourceSql
