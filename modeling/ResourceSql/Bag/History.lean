import ResourceSql.Bag

/-!
# The history of a bag

A bag starts without names and goes through one operation after the other.  What
happens to single names on the way is its history: a name is written, the value under
it is changed where it is, it is removed, or everything is forgotten because the bag is
built anew.

The value of a name and the time since which it has its place are read off the history
alone, newest event first.  No bag occurs in either of them.
-/

namespace ResourceSql.Bag

variable {α : Type}

/-- An operation on a bag. -/
inductive Operation (α : Type) where
  | exchange (name : String) (value : α)
  | insert (name : String) (value : α)
  | modify (name : String) (change : α → α)
  | extract (name : String)
  | insertMany (entries : List (String × α))
  | ofList (entries : List (String × α))

/-- The bag after an operation. -/
def Operation.apply : Operation α → Bag α → Bag α
  | .exchange name value, b => (b.exchange name value).2
  | .insert name value, b => b.insert name value
  | .modify name change, b => b.modify name change
  | .extract name, b => (b.extract name).2
  | .insertMany entries, b => b.insertMany entries
  | .ofList entries, _ => Bag.ofList entries

/-- Whether an operation may do something to a name. -/
def Operation.Touches : Operation α → String → Prop
  | .exchange name _, other | .insert name _, other | .modify name _, other
  | .extract name, other => other = name
  | .insertMany entries, other => other ∈ entries.map (·.1)
  | .ofList _, _ => True

/-- The bag after operations, the first of them on the bag without names. -/
def run (operations : List (Operation α)) : Bag α :=
  operations.foldl (fun b operation => operation.apply b) empty

/-- What happens to a name. -/
inductive Event (α : Type) where
  | written (name : String) (value : α)
  | changed (name : String) (change : α → α)
  | removed (name : String)
  /-- All names are removed. -/
  | forgotten

/-- The events of an operation, in the order in which they happen. -/
def Operation.events : Operation α → List (Event α)
  | .exchange name value | .insert name value => [.written name value]
  | .modify name change => [.changed name change]
  | .extract name => [.removed name]
  | .insertMany entries => entries.map fun (name, value) => .written name value
  | .ofList entries => .forgotten :: entries.map fun (name, value) => .written name value

/-- The events of operations, newest first. -/
def history (operations : List (Operation α)) : List (Event α) :=
  (operations.flatMap Operation.events).reverse

/-- The value that was last written under a name since it was last removed. -/
def lastValue? (name : String) : List (Event α) → Option α
  | [] => none
  | .written other value :: past => if other = name then some value else lastValue? name past
  | .changed other change :: past =>
    if other = name then (lastValue? name past).map change else lastValue? name past
  | .removed other :: past => if other = name then none else lastValue? name past
  | .forgotten :: _ => none

/-- The time at which a name was first written since it was last removed, counted in
events from the beginning. -/
def bornAt? (name : String) : List (Event α) → Option Nat
  | [] => none
  | .written other _ :: past =>
    if other = name then some ((bornAt? name past).getD past.length) else bornAt? name past
  | .changed _ _ :: past => bornAt? name past
  | .removed other :: past => if other = name then none else bornAt? name past
  | .forgotten :: _ => none

/-- One name has its place for longer than another. -/
def Older (past : List (Event α)) (name other : String) : Prop :=
  ∃ s t, bornAt? name past = some s ∧ bornAt? other past = some t ∧ s < t

/-- The bag is the ordered map that its history tells of. -/
structure Tells (past : List (Event α)) (b : Bag α) : Prop where
  unique : b.Unique
  /-- The value under a name is the one that was last written. -/
  get?_eq : ∀ name, b.get? name = lastValue? name past
  contains_eq : ∀ name, b.contains name = (lastValue? name past).isSome
  mem_entries_iff : ∀ name value, (name, value) ∈ b.entries ↔ lastValue? name past = some value
  entries_eq : b.entries = b.names.zip b.values
  length_names : b.names.length = b.size
  length_values : b.values.length = b.size
  /-- The names stand in the order in which they were first written. -/
  ordered : b.names.Pairwise (Older past)

end ResourceSql.Bag
