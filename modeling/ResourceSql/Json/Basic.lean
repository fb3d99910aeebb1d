import ResourceSql.Bag
import ResourceSql.Binary64

/-!
# JSON documents

A document in the sense of this library: whole numbers are exact over the signed
and unsigned 64-bit ranges, every other number is a double, and the members of an
object keep their order.

The type does not ask that members have distinct names or that doubles are
finite; `Json.WellFormed` does.
-/

namespace ResourceSql

/-- A whole number that fits into 64 bits, signed or unsigned. -/
structure WideInt where
  val : Int
  /-- At least the least signed number. -/
  lower : -0x8000000000000000 ≤ val
  /-- At most the greatest unsigned number. -/
  upper : val < 0x10000000000000000
deriving DecidableEq, Repr

namespace WideInt

/-- Every signed 64-bit number is one. -/
def ofInt64 (n : Int64) : WideInt :=
  ⟨n.toInt, Int64.le_toInt n, by have := Int64.toInt_lt n; omega⟩

/-- Every unsigned 64-bit number is one. -/
def ofUInt64 (n : UInt64) : WideInt :=
  ⟨n.toNat, by omega, by have := n.toNat_lt; omega⟩

/-- The number, if it fits. -/
def ofInt? (n : Int) : Option WideInt :=
  if h : -0x8000000000000000 ≤ n ∧ n < 0x10000000000000000 then some ⟨n, h.1, h.2⟩ else none

end WideInt

/-- A JSON document. -/
inductive Json where
  | null
  | bool (b : Bool)
  | int (n : WideInt)
  /-- A number with a fraction or an exponent. -/
  | float (x : Binary64)
  | string (s : String)
  | array (items : List Json)
  | object (members : Bag Json)
deriving Inhabited

namespace Json

mutual

/-- Members have distinct names and doubles are finite, at every depth. -/
def WellFormed : Json → Prop
  | .float x => x.isFinite = true
  | .array items => WellFormedItems items
  | .object members => members.Unique ∧ WellFormedBag members
  | _ => True

def WellFormedItems : List Json → Prop
  | [] => True
  | item :: rest => item.WellFormed ∧ WellFormedItems rest

def WellFormedBag : Bag Json → Prop
  | ⟨entries⟩ => WellFormedEntries entries

def WellFormedEntries : List (String × Json) → Prop
  | [] => True
  | (_, value) :: rest => value.WellFormed ∧ WellFormedEntries rest

end

end Json

end ResourceSql
