import ResourceSql.Binary64
import ResourceSql.Text.Digits

/-!
# Shortest decimals

The shortest decimal of a double is the coarsest decimal that reads back as it.
The reals that round to a double form an interval; the module walks the grids
`10 ^ 309, 10 ^ 308, …` from coarse to fine and takes the first one with a point
in the interval.  On that grid the point nearest to the double wins, and what
happens halfway between two points is left to the caller as a `Tie`.

All comparisons are made on whole numbers in units of a quarter of the double's
last place.
-/

namespace ResourceSql

/-- A number `coefficient * 10 ^ exponent`. -/
structure Decimal where
  /-- The digits, read as a whole number. -/
  coefficient : Nat
  /-- The place of the last digit. -/
  exponent : Int
deriving DecidableEq, Repr

/-- Which of two equally near grid points to take. -/
inductive Tie where
  /-- The larger one. -/
  | up
  /-- The one with the even last digit. -/
  | even
deriving DecidableEq, Repr

namespace Decimal

/-- The interval of reals that round to a double, in quarters of its last place. -/
structure Interval where
  low : Nat
  middle : Nat
  high : Nat
  /-- Whether the ends round to the double as well. -/
  closed : Bool

/-- The interval of a finite double.  Below a power of two the neighbours lie
twice as close, and the ends belong to the double with the even significand. -/
def interval (x : Binary64) : Interval :=
  let m := x.significand
  { low := if x.fractionField = 0 ∧ 1 < x.exponentField then 4 * m - 1 else 4 * m - 2
    middle := 4 * m
    high := 4 * m + 2
    closed := m % 2 = 0 }

/-- Whether the grid point `c` lies in the interval, when a quarter place is
`a / b` of a grid step. -/
def Interval.holds (i : Interval) (a b c : Nat) : Bool :=
  if i.closed then i.low * a ≤ c * b && c * b ≤ i.high * a
  else i.low * a < c * b && c * b < i.high * a

/-- How many steps of the grid `10 ^ place` make a quarter place of a double with
binary exponent `q`, as a fraction. -/
def quarterPlace (q place : Int) : Nat × Nat :=
  let two := q - 2
  (Nat.pow 2 two.toNat * Nat.pow 10 (-place).toNat,
    Nat.pow 2 (-two).toNat * Nat.pow 10 place.toNat)

/-- The point of the grid `10 ^ place` that lies in the interval of `x` and is
nearest to `x`. -/
def onGrid? (tie : Tie) (x : Binary64) (place : Int) : Option Nat :=
  let i := interval x
  let (a, b) := quarterPlace x.exponent place
  let below := i.middle * a / b
  let above := below + 1
  match i.holds a b below, i.holds a b above with
  | false, false => none
  | true, false => some below
  | false, true => some above
  | true, true =>
    let down := i.middle * a - below * b
    let up := above * b - i.middle * a
    if down < up then some below
    else if up < down then some above
    else match tie with
      | .up => some above
      | .even => some (if below % 2 = 0 then below else above)

/-- The places of the grids to try, from coarse to fine.  Every double lies below
the first grid's unit, and the last grid is finer than the smallest double. -/
def places : List Int := (List.range 634).map fun i : Nat => (309 : Int) - i

/-- The shortest decimal of the magnitude of a finite double. -/
def shortest (tie : Tie) (x : Binary64) : Decimal :=
  if x.isZero then ⟨0, 0⟩
  else
    (places.findSome? fun place => (onGrid? tie x place).map (⟨·, place⟩)).getD ⟨0, 0⟩

/-!
## Laying out decimals

How the shortest decimal of a double becomes text.  A `Layout` records the
decisions of one format: where positional notation ends, whether a whole number
keeps `.0`, whether a positive exponent carries a plus sign, and which way an
exact tie between two shortest decimals goes.
-/

/-- The decisions of a number format. -/
structure Layout where
  /-- The least and greatest exponent of the leading digit that are written
  without an exponent; `none` writes every number so. -/
  positional : Option (Int × Int)
  /-- Whether a whole number in positional notation ends in `.0`. -/
  pointZero : Bool
  /-- Whether a positive exponent is written with a plus sign. -/
  plusSign : Bool
  /-- Which of two equally near shortest decimals is written. -/
  tie : Tie

def positional (pointZero : Bool) (d : Decimal) : List Char :=
  let digits := Digits.ofNat 10 d.coefficient
  if 0 ≤ d.exponent then
    digits ++ List.replicate d.exponent.toNat '0' ++ (if pointZero then ['.', '0'] else [])
  else
    let places := (-d.exponent).toNat
    let padded := Digits.padLeft (places + 1) digits
    let whole := padded.length - places
    padded.take whole ++ '.' :: padded.drop whole

/-- Scientific notation of a decimal: one digit, the rest after a point, and the
exponent of the leading digit. -/
def scientific (plusSign : Bool) (d : Decimal) (leading : Int) : List Char :=
  let digits := Digits.ofNat 10 d.coefficient
  let mantissa := if digits.length ≤ 1 then digits else digits.take 1 ++ '.' :: digits.drop 1
  let sign := if leading < 0 then ['-'] else if plusSign then ['+'] else []
  mantissa ++ 'e' :: sign ++ Digits.ofNat 10 leading.natAbs

def Layout.write (layout : Layout) (d : Decimal) : List Char :=
  let leading : Int := d.exponent + (Digits.ofNat 10 d.coefficient).length - 1
  match layout.positional with
  | none => Decimal.positional layout.pointZero d
  | some (least, greatest) =>
    if d.coefficient = 0 ∨ (least ≤ leading ∧ leading ≤ greatest) then
      Decimal.positional layout.pointZero d
    else scientific layout.plusSign d leading

/-- The text of a finite double in a format, with a minus sign if its sign bit is set. -/
def Layout.finite (layout : Layout) (x : Binary64) : String :=
  let digits := layout.write (shortest layout.tie x)
  String.ofList (if x.isNegative then '-' :: digits else digits)

/-- The names of the numbers that are not finite. -/
def nonFinite (x : Binary64) : String :=
  if x.isNaN then "NaN" else if x.isNegative then "-inf" else "inf"

end Decimal

end ResourceSql
