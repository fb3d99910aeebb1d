import ResourceSql.Binary64
import ResourceSql.Decimal
import ResourceSql.Json.Basic
import ResourceSql.Json.Written

/-!
# Reading JSON

What a written text means as a document.

* A numeral without fraction and exponent that fits into 64 bits is a whole
  number; `-0` is the negative zero among the doubles.
* Every other numeral is a double.  Its digits are collected while they fit into
  64 bits, the collected number is rounded to a double, and this is multiplied or
  divided by the power of ten, itself rounded to a double.
* A repeated name keeps its first place and its last value.
-/

namespace ResourceSql

namespace Numeral

/-- Collect digits onto a number while it fits into 64 bits, and return the digits
that no longer fit. -/
def collect (n : Nat) : List Char → Nat × List Char
  | [] => (n, [])
  | c :: rest =>
    let next := n * 10 + (c.toNat - 48)
    if next < 0x10000000000000000 then collect next rest else (n, c :: rest)

def powerOfTen (n : Nat) : Binary64 := Binary64.ofNat (Nat.pow 10 n)

/-- A double times a power of ten; `none` if it exceeds every double.  A power
below `10 ^ -308` is divided out in steps. -/
def timesPowerOfTen? (x : Binary64) (exponent : Int) : Option Binary64 :=
  if _small : exponent.natAbs ≤ 308 then
    if 0 ≤ exponent then
      let product := x.mul (powerOfTen exponent.natAbs)
      if product.isFinite then some product else none
    else some (x.div (powerOfTen exponent.natAbs))
  else if x.isZero then some x
  else if 0 ≤ exponent then none
  else timesPowerOfTen? (x.div (powerOfTen 308)) (exponent + 308)
termination_by exponent.natAbs
decreasing_by omega

/-- The exponent that is written after the digits. -/
def writtenExponent (n : Numeral) : Int :=
  match n.exponent with
  | none => 0
  | some (negative, digits) =>
    let magnitude : Int := Digits.readDecimal 0 digits
    if negative then -magnitude else magnitude

def toDouble? (n : Numeral) : Option Binary64 :=
  let (whole, beyond) := collect 0 n.whole
  let fraction := n.fraction.getD []
  let (all, dropped) := collect whole fraction
  let places : Int := fraction.length - dropped.length
  (timesPowerOfTen? (Binary64.ofNat all) (beyond.length - places + n.writtenExponent)).map
    fun x => if n.negative then x.neg else x

def toWideInt? (n : Numeral) : Option WideInt :=
  if n.fraction.isSome ∨ n.exponent.isSome then none
  else
    let magnitude : Int := Digits.readDecimal 0 n.whole
    if n.negative then
      if magnitude = 0 then none else WideInt.ofInt? (-magnitude)
    else WideInt.ofInt? magnitude

end Numeral

namespace Json

def ofNumeral? (n : Numeral) : Option Json :=
  match n.toWideInt? with
  | some whole => some (.int whole)
  | none => n.toDouble?.map .float

mutual

/-- The document that a written text stands for; `none` if a number is too large. -/
def ofWritten? : Written → Option Json
  | .null => some .null
  | .bool b => some (.bool b)
  | .number n => ofNumeral? n
  | .string s => some (.string s)
  | .array items => (ofWrittenItems? items).map .array
  | .object members => (ofWrittenMembers? members).map fun entries => .object (Bag.ofList entries)

def ofWrittenItems? : List Written → Option (List Json)
  | [] => some []
  | item :: rest => do
    let first ← ofWritten? item
    let others ← ofWrittenItems? rest
    return first :: others

def ofWrittenMembers? : List (String × Written) → Option (List (String × Json))
  | [] => some []
  | (name, value) :: rest => do
    let first ← ofWritten? value
    let others ← ofWrittenMembers? rest
    return (name, first) :: others

end

/-- The document that a JSON text stands for. -/
def parse? (s : String) : Option Json := (Written.parse? s).bind ofWritten?

end Json

/-!
## What written documents denote

Which document a written text denotes when its numerals are taken at their value.  A
numeral denotes a whole number if it has its value, whatever form it is written in, and
it denotes the double that is nearest to its value.
-/

/-- The magnitude of a decimal as a fraction of whole numbers. -/
def Decimal.ratio (d : Decimal) : Nat × Nat :=
  (d.coefficient * Nat.pow 10 d.exponent.toNat, Nat.pow 10 (-d.exponent).toNat)

/-- Whether a signed decimal denotes a document, which then is a number. -/
def Decimal.Denotes (negative : Bool) (d : Decimal) : Json → Prop
  | .int n => n.val * d.ratio.2 = if negative then -(d.ratio.1 : Int) else d.ratio.1
  | .float x => Binary64.ofRatio negative d.ratio.1 d.ratio.2 = x
  | _ => False

/-- The decimal that a numeral writes, without its sign. -/
def Numeral.decimal (n : Numeral) : Decimal :=
  let places := n.fraction.getD []
  ⟨Digits.readDecimal 0 (n.whole ++ places), n.writtenExponent - places.length⟩

namespace Written

mutual

/-- Whether a written text denotes a document.  A repeated name keeps its first place
and its last value. -/
def Denotes : Written → Json → Prop
  | .null, .null => True
  | .bool b, .bool c => b = c
  | .number n, j => n.decimal.Denotes n.negative j
  | .string s, .string t => s = t
  | .array items, .array js => ItemsDenote items js
  | .object members, .object b => ∃ entries, MembersDenote members entries ∧ b = Bag.ofList entries
  | _, _ => False

def ItemsDenote : List Written → List Json → Prop
  | [], [] => True
  | item :: items, j :: js => item.Denotes j ∧ ItemsDenote items js
  | _, _ => False

def MembersDenote : List (String × Written) → List (String × Json) → Prop
  | [], [] => True
  | (name, value) :: members, (other, j) :: entries =>
    name = other ∧ value.Denotes j ∧ MembersDenote members entries
  | _, _ => False

end

end Written

/-- Whether a text is JSON that denotes a document. -/
def Json.WrittenAs (j : Json) (text : String) : Prop :=
  ∃ written, Written.parse? text = some written ∧ written.Denotes j

end ResourceSql
