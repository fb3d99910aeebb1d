import ResourceSql.Request
import ResourceSql.Sql.Statement
import ResourceSql.Text.Boundary

/-!
# SET clauses

What an update writes between SET and WHERE, said entry by entry.  A change that only has
objects to put where there are objects already is void: it has nothing to set.  All other
changes are effective, and each of them is an assignment of its own.
-/

namespace ResourceSql

namespace Value

mutual

/-- Whether a change has nothing to set: it is an object, there is an object to change, and
every member is void against what is there. -/
def isVoid : Value → Option Value → Bool
  | .object change, some (.object present) => isVoidBag change present
  | _, _ => false

def isVoidBag : Bag Value → Bag Value → Bool
  | ⟨entries⟩, present => isVoidEntries entries present

def isVoidEntries : List (String × Value) → Bag Value → Bool
  | [], _ => true
  | (name, change) :: rest, present =>
    change.isVoid (present.get? name) && isVoidEntries rest present

end

/-- A value asks for nothing new: what is there equals it, or both are objects and every
member of it asks for nothing new. -/
inductive Settled : Value → Option Value → Prop
  /-- What is there equals the value. -/
  | equal {v old : Value} (hequal : old.equal v = true) : Settled v (some old)
  /-- The members of an object ask for nothing new. -/
  | object {after before : Bag Value}
    (hmembers : ∀ entry ∈ after.entries, Settled entry.2 (before.get? entry.1)) :
    Settled (.object after) (some (.object before))

end Value

namespace Attributes

/-- The changes that are not void against the present attributes, in their order. -/
def effectiveOn (changes : Attributes) (present : Option Attributes) : List (String × Value) :=
  changes.entries.filter fun (name, change) => !change.isVoid (present.bind (·.get? name))

end Attributes

/-- The assignment of an effective change: a merge of its places where an object meets an
object, and otherwise the whole value. -/
def Assignment.ofEffective (present : Option Attributes) (entry : String × Value) :
    Assignment :=
  let column := StorageName.column entry.1
  match present.bind (·.get? entry.1), entry.2 with
  | some (.object present), .object change => .merge column (Value.placesInBag [] change present)
  | _, change => .whole column change

/-!
## One buffer

The clause can be written change by change into one buffer.  Comma, column and sign go in
before it is known whether the change has anything to set.  If it turns out to be void then
the buffer is cut back to the length that it had before.
-/

namespace SetClause

/-- Write a change of a column behind a text, and tell whether there is anything to set.  The
column and the sign are written in any case. -/
def write (text column : String) (old : Option Value) (change : Value) :
    Except Failure (String × Bool) := do
  let opened := text ++ Sql.identifier column ++ " = "
  match old, change with
  | some (.object present), .object change =>
    let places := Value.placesInBag [] change present
    if places.isEmpty then return (opened, false)
    let written ← places.foldlM
      (fun written place => do
        let text ← Sql.placed place.1 place.2
        return written ++ text)
      (opened ++ "JSON_SET(" ++ Sql.identifier column)
    return (written ++ ")", true)
  | _, change => do
    let literal ← change.sql
    return (opened ++ literal, true)

/-- The buffer with a comma behind it, unless it is empty. -/
def separated (buffer : String) : String := if buffer.isEmpty then buffer else buffer ++ ", "

/-- Take up a change into the buffer: mark its end, write, and cut it back to the mark if there
was nothing to set. -/
def step (present : Option Attributes) (buffer : String) (entry : String × Value) :
    Except Failure String := do
  let mark := buffer.utf8ByteSize
  let (written, kept) ← write (separated buffer) (StorageName.column entry.1)
    (present.bind (·.get? entry.1)) entry.2
  return if kept then written else Boundary.front written mark

/-- Take up all changes, in their order. -/
def run (present : Option Attributes) (buffer : String) (entries : List (String × Value)) :
    Except Failure String :=
  entries.foldlM (step present) buffer

/-- The text of an update whose clause is written into a buffer.  An empty buffer is refused at
the end. -/
def update (r : Resource) (revision : Revision) (filter : Condition) : Except Failure String := do
  let changes ← revision.changes r.attributes
  let buffer ← run r.attributes "" changes.entries
  if buffer.isEmpty then .error (.refused .nothingToSet)
  else
    let condition ← filter.sql
    return "UPDATE " ++ Sql.identifier r.table ++ " SET " ++ buffer ++ " WHERE " ++ condition ++ ";"

end SetClause

end ResourceSql
