/-!
# Double-precision numbers

A `Binary64` is kept as its bit pattern, so that every question about it is
exact arithmetic on whole numbers: a finite one has the value
`significand * 2 ^ exponent`, with a sign.  Comparison follows the usual rule
for floating point and is kept apart from identity: a NaN equals nothing and
the two zeros equal each other.
-/

namespace ResourceSql

/-- A double-precision floating-point number. -/
structure Binary64 where
  /-- Sign, eleven exponent bits, fifty-two fraction bits. -/
  bits : UInt64
deriving DecidableEq, Repr, Inhabited

namespace Binary64

variable (x : Binary64)

/-- Whether the sign bit is set. -/
def isNegative : Bool := x.bits.toNat / 0x8000000000000000 == 1

def exponentField : Nat := x.bits.toNat / 0x10000000000000 % 0x800

def fractionField : Nat := x.bits.toNat % 0x10000000000000

/-- Neither an infinity nor a NaN. -/
def isFinite : Bool := x.exponentField < 2047

def isNaN : Bool := x.exponentField == 2047 && x.fractionField != 0

/-- One of the two zeros. -/
def isZero : Bool := x.exponentField == 0 && x.fractionField == 0

/-- The whole number that a finite number scales by a power of two. -/
def significand : Nat :=
  if x.exponentField = 0 then x.fractionField else x.fractionField + 0x10000000000000

/-- The power of two by which a finite number scales its significand. -/
def exponent : Int := (max x.exponentField 1 : Nat) - 1075

/-- Floating-point comparison: no NaN equals anything, and the zeros are equal. -/
def equal (y : Binary64) : Bool :=
  !x.isNaN && !y.isNaN && (x.bits == y.bits || (x.isZero && y.isZero))

instance : BEq Binary64 := ⟨equal⟩

theorem isNaN_eq_false {x : Binary64} (h : x.isFinite = true) : x.isNaN = false := by
  have hlt : x.exponentField < 2047 := of_decide_eq_true h
  have hne : x.exponentField ≠ 2047 := Nat.ne_of_lt hlt
  simp [isNaN, hne]

end Binary64

/-!
## Rounding to double precision

`Binary64.ofRatio` rounds a fraction of whole numbers to the nearest double, a
half going to the even neighbour.  Products, quotients and the widening of
single-precision numbers are stated through it, so each of them rounds once.
-/

namespace Binary64

/-- A fraction rounded to the nearest whole number, a half to the even one. -/
def roundHalfEven (num den : Nat) : Nat :=
  let whole := num / den
  let rest := num % den
  if 2 * rest < den ∨ (2 * rest = den ∧ whole % 2 = 0) then whole else whole + 1

/-- The magnitude `num / den * 2 ^ (-shift)` as a fraction of whole numbers. -/
def scaled (num den : Nat) (shift : Int) : Nat × Nat :=
  if shift ≤ 0 then (num * Nat.pow 2 shift.natAbs, den) else (num, den * Nat.pow 2 shift.natAbs)

/-- The exponent of the doubles around a positive fraction: the one that leaves
fifty-three significant bits, but never below that of the subnormal numbers. -/
def exponentOf (num den : Nat) : Int :=
  let low : Int := (Nat.log2 num : Int) - Nat.log2 den - 53
  let (n, d) := scaled num den low
  let fitted := if n / d < 0x20000000000000 then low else low + 1
  max fitted (-1074)

/-- Attach a sign to the bits of a magnitude. -/
def ofMagnitude (negative : Bool) (magnitude : Nat) : Binary64 :=
  ⟨UInt64.ofNat (if negative then 0x8000000000000000 + magnitude else magnitude)⟩

/-- The bits of the magnitude of an infinity; those of finite numbers lie below. -/
def infinityBits : Nat := 0x7ff0000000000000

/-- The double nearest to `num / den`, an infinity if it lies beyond the largest one. -/
def ofRatio (negative : Bool) (num den : Nat) : Binary64 :=
  if num = 0 then ofMagnitude negative 0
  else
    let q := exponentOf num den
    let (n, d) := scaled num den q
    let magnitude := (q + 1074).toNat * 0x10000000000000 + roundHalfEven n d
    ofMagnitude negative (min magnitude infinityBits)

/-- The magnitude of a finite number as a fraction. -/
def ratio (x : Binary64) : Nat × Nat :=
  if x.exponent ≤ 0 then (x.significand, Nat.pow 2 x.exponent.natAbs)
  else (x.significand * Nat.pow 2 x.exponent.natAbs, 1)

/-- The product of two finite numbers, rounded. -/
def mul (x y : Binary64) : Binary64 :=
  let (a, b) := x.ratio
  let (c, d) := y.ratio
  ofRatio (x.isNegative != y.isNegative) (a * c) (b * d)

/-- The quotient of a finite number by a finite one that is not zero, rounded. -/
def div (x y : Binary64) : Binary64 :=
  let (a, b) := x.ratio
  let (c, d) := y.ratio
  ofRatio (x.isNegative != y.isNegative) (a * d) (b * c)

/-- The double nearest to a whole number. -/
def ofNat (n : Nat) : Binary64 := ofRatio false n 1

def neg (x : Binary64) : Binary64 := ofMagnitude (!x.isNegative) (x.bits.toNat % 0x8000000000000000)

/-- The double with the value of a single-precision bit pattern.  The wider
format holds every such value, so nothing is rounded; a NaN stays a NaN. -/
def ofSingleBits (bits : UInt32) : Binary64 :=
  let negative := bits.toNat / 0x80000000 == 1
  let field := bits.toNat / 0x800000 % 0x100
  let fraction := bits.toNat % 0x800000
  if field = 255 then
    ofMagnitude negative (infinityBits + fraction * 0x20000000)
  else if field = 0 then ofRatio negative fraction (Nat.pow 2 149)
  else ofRatio negative ((fraction + 0x800000) * Nat.pow 2 field) (Nat.pow 2 150)

end Binary64

end ResourceSql
