import ResourceSql.Text.Digits

/-!
# Dates and times

Calendar dates, times of day with nanoseconds, and their two written forms: the
one of SQL literals, which cuts the fraction of a second to three digits, and the
one of JSON documents, which writes as many groups of three digits as are needed.

A leap second is a time whose nanoseconds run on past the second it follows; it
is written as the next second, so that `23:59:59` can be followed by `23:59:60`.
-/

namespace ResourceSql

/-- A day of the proleptic Gregorian calendar. -/
structure Date where
  /-- The year, which may lie before year one. -/
  year : Int
  /-- The month, from one. -/
  month : Nat
  /-- The day of the month, from one. -/
  day : Nat
deriving DecidableEq, Repr

structure TimeOfDay where
  hour : Nat
  minute : Nat
  second : Nat
  /-- The nanoseconds after the second; a thousand million or more within a leap
  second. -/
  nanosecond : Nat
deriving DecidableEq, Repr

structure DateTime where
  date : Date
  time : TimeOfDay
deriving DecidableEq, Repr

/-- A year of four digits is written plainly, every other year with its sign. -/
def Date.yearText (year : Int) : String :=
  if 0 ≤ year ∧ year ≤ 9999 then Digits.decimalPadded 4 year.natAbs
  else (if year < 0 then "-" else "+") ++ Digits.decimalPadded 4 year.natAbs

/-- A date as year, month and day. -/
def Date.text (d : Date) : String :=
  yearText d.year ++ "-" ++ Digits.decimalPadded 2 d.month ++ "-" ++ Digits.decimalPadded 2 d.day

namespace TimeOfDay

def nanosecondsPerSecond : Nat := 1000000000

/-- The second that is written: a leap second counts as the next one. -/
def writtenSecond (t : TimeOfDay) : Nat := t.second + t.nanosecond / nanosecondsPerSecond

def writtenNanosecond (t : TimeOfDay) : Nat := t.nanosecond % nanosecondsPerSecond

def clockText (t : TimeOfDay) : String :=
  Digits.decimalPadded 2 t.hour ++ ":" ++ Digits.decimalPadded 2 t.minute ++ ":" ++
    Digits.decimalPadded 2 t.writtenSecond

/-- The fraction of the second in three digits, the rest cut off. -/
def milliText (t : TimeOfDay) : String :=
  "." ++ Digits.decimalPadded 3 (t.writtenNanosecond / 1000000)

/-- The fraction of the second in nothing, three, six or nine digits, whichever
is the least that writes it exactly. -/
def fractionText (t : TimeOfDay) : String :=
  let nanos := t.writtenNanosecond
  if nanos = 0 then ""
  else if nanos % 1000000 = 0 then "." ++ Digits.decimalPadded 3 (nanos / 1000000)
  else if nanos % 1000 = 0 then "." ++ Digits.decimalPadded 6 (nanos / 1000)
  else "." ++ Digits.decimalPadded 9 nanos

end TimeOfDay

def DateTime.sqlText (t : DateTime) : String :=
  t.date.text ++ " " ++ t.time.clockText ++ t.time.milliText

def DateTime.jsonText (t : DateTime) : String :=
  t.date.text ++ "T" ++ t.time.clockText ++ t.time.fractionText

/-- The form in JSON documents of a time in UTC. -/
def DateTime.utcText (t : DateTime) : String := t.jsonText ++ "Z"

end ResourceSql
