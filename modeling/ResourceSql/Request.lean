import ResourceSql.Resource.Basic
import ResourceSql.Settings
import ResourceSql.Statement
import ResourceSql.Value.Change
import ResourceSql.Value.Display

/-!
# Requests

What can be asked of a resource, and the statement that answers it.

An update is given by its changes, or by a transformation of the attributes, whose
changes are then found by comparison with the present ones.
-/

namespace ResourceSql

structure Listing where
  /-- The number of the page, from zero. -/
  page : UInt64 := 0
  /-- The rows of a page, or zero for the default. -/
  size : UInt64 := 0
  filter : Option Condition := none
  /-- The columns to sort by, first key first. -/
  sort : List String := []

/-- How an update changes the attributes. -/
inductive Revision where
  | transformed (transform : Attributes → Attributes)
  | given (changes : Attributes)

/-- The text in which a revision is shown to a developer. -/
def Revision.display : Revision → String
  | .transformed _ => "Updater::Transform(..)"
  | .given changes => Value.tagged "Updater::Changes" (Value.displayBag changes)

/-- What can be asked of a resource. -/
inductive Request where
  | insert
  | select
  /-- Select the resources of its type that a condition holds of. -/
  | search (filter : Condition)
  /-- List the resources of its type. -/
  | list (listing : Listing)
  | delete
  /-- Update the resources of its type that a condition holds of. -/
  | update (revision : Revision) (filter : Condition)

def Revision.changes (revision : Revision) (present : Option Attributes) :
    Except Failure Attributes :=
  match revision, present with
  | .given changes, _ => .ok changes
  | .transformed transform, some before => .ok ((transform before).changesSince before)
  | .transformed _, none => .error .missingAttributes

/-- What a revision is given by has distinct names: the changes, or the transformed
attributes. -/
def Revision.Unique (revision : Revision) (present : Option Attributes) : Prop :=
  match revision, present with
  | .given changes, _ => changes.Unique
  | .transformed transform, some before => (transform before).Unique
  | .transformed _, none => True

namespace Resource

def table (r : Resource) : String := StorageName.table r.typeName

/-- The identifier, or the failure of an operation that needs it. -/
def requireId (r : Resource) (otherwise : Failure) : Except Failure String :=
  match r.usableId? with
  | some id => .ok id
  | none => .error otherwise

/-- The row of a resource: its identifier, then its attributes under the names of
their columns. -/
def row (r : Resource) (id : String) : Attributes :=
  let attributes := (r.attributes.map (·.entries)).getD []
  (Bag.ofList [("id", Value.text id)]).insertMany
    (attributes.map fun (name, value) => (StorageName.column name, value))

end Resource

def Listing.toPage (listing : Listing) (settings : Settings) : Except Failure Page :=
  let limit := (settings.pageSize listing.size).rows.toNat
  let offset := listing.page.toNat * limit
  if offset < 0x10000000000000000 then
    .ok { filter := listing.filter, order := listing.sort.map SortKey.parse, limit, offset }
  else .error (.refused .offsetOverflow)

/-- The statement that answers a request. -/
def Request.statement (request : Request) (settings : Settings) (r : Resource) :
    Except Failure Statement :=
  match request with
  | .insert => do
    let id ← r.requireId .unsetId
    return .insert r.table (r.row id)
  | .select => do
    let id ← r.requireId .missingId
    return .select r.table id
  | .search filter => .ok (.search r.table filter)
  | .list listing => do
    let _ ← r.requireId .missingId
    let page ← listing.toPage settings
    return .list r.table page
  | .delete => do
    let id ← r.requireId .missingId
    return .delete r.table id
  | .update revision filter => do
    let changes ← revision.changes r.attributes
    let assignments := Assignment.ofChanges r.attributes changes
    if assignments.isEmpty then .error (.refused .nothingToSet)
    else return .update r.table assignments filter

end ResourceSql
