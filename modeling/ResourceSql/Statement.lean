import ResourceSql.Condition
import ResourceSql.StorageName
import ResourceSql.Value.Change

/-!
# Statements

A compiled statement before it is written: the table, and what is read from it or
written to it.  Everything that a request can be refused for has been decided when
a statement exists; writing it can only fail for want of a literal.
-/

namespace ResourceSql

/-!
## Assignments

What an update does to the columns.  An object that is to change an attribute
which holds an object is merged into it place by place, so that members it does
not mention survive; a merge without a place to set is left out.  Every other
change replaces the value of its column.
-/

/-- What an update does to one column. -/
inductive Assignment where
  /-- The column takes a value. -/
  | whole (column : String) (value : Value)
  /-- Places within the column's document take values, one after the other. -/
  | merge (column : String) (changes : List (JsonPath × Value))

def Assignment.column : Assignment → String
  | .whole column _ => column
  | .merge column _ => column

namespace Assignment

/-- The assignment that a change of an attribute asks for, if it asks for any. -/
def ofChange? (present : Option Value) (name : String) (change : Value) :
    Option Assignment :=
  let column := StorageName.column name
  match present, change with
  | some (.object present), .object change =>
    let places := Value.placesInBag [] change present
    if places.isEmpty then none else some (.merge column places)
  | _, _ => some (.whole column change)

/-- The assignments that changes ask for, in their order. -/
def ofChanges (present : Option Attributes) (changes : Attributes) : List Assignment :=
  changes.entries.filterMap fun (name, change) =>
    ofChange? (present.bind (·.get? name)) name change

end Assignment

/-! ## Statements and their parts -/

/-- A column to sort by. -/
structure SortKey where
  column : String
  /-- Whether greater values come first. -/
  descending : Bool
deriving DecidableEq, Repr

/-- A sort key as it is requested: a minus sign before the column sorts descending. -/
def SortKey.parse (s : String) : SortKey :=
  match s.toList with
  | '-' :: c :: rest => ⟨String.ofList (c :: rest), true⟩
  | _ => ⟨s, false⟩

/-- The part of a table that a listing shows. -/
structure Page where
  /-- Which rows count. -/
  filter : Option Condition
  /-- Their order, first key first. -/
  order : List SortKey
  /-- How many rows are shown. -/
  limit : Nat
  /-- How many rows are passed over. -/
  offset : Nat

/-- A compiled statement. -/
inductive Statement where
  | insert (table : String) (row : Attributes)
  | select (table id : String)
  | search (table : String) (filter : Condition)
  | list (table : String) (page : Page)
  | delete (table id : String)
  | update (table : String) (assignments : List Assignment) (filter : Condition)

namespace Statement

def table : Statement → String
  | .insert table _ => table
  | .select table _ => table
  | .search table _ => table
  | .list table _ => table
  | .delete table _ => table
  | .update table _ _ => table

def operation : Statement → String
  | .insert .. => "insert"
  | .select .. => "select"
  | .search .. => "search"
  | .list .. => "list"
  | .delete .. => "delete"
  | .update .. => "update"

end Statement

end ResourceSql
