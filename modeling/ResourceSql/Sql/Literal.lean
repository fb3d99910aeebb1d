import ResourceSql.Failure
import ResourceSql.Value.Codec

/-!
# Identifiers and literals

How names and values are written in a statement.
-/

namespace ResourceSql

/-!
## Quoted identifiers

An identifier stands between backticks.  A backtick of the name is written twice,
and a dot divides the name into parts that are quoted one by one, as in a column
qualified by its table.
-/

namespace Sql

/-- The character around an identifier. -/
def backtick : Char := '\x60'

def identifierChar (c : Char) : List Char :=
  if c = backtick then [backtick, backtick]
  else if c = '.' then [backtick, '.', backtick]
  else [c]

def identifier (name : String) : String :=
  String.ofList (backtick :: name.toList.flatMap identifierChar ++ [backtick])

def identifiers (names : List String) : String :=
  String.intercalate ", " (names.map identifier)

end Sql

/-!
## Literals

`Value.literal` decides what a value is written as, and `Literal.sql` writes it:
words and numbers plainly, everything else as text between single quotes.  Lists and
objects are written as the text of their document.

A double that is not finite has no literal.  Inside a list or an object it is
already null in the document.
-/

/-- A literal of the dialect. -/
inductive Literal where
  | null
  | bool (b : Bool)
  | int (n : Int)
  /-- A finite double. -/
  | float (x : Binary64)
  | quoted (s : String)
deriving DecidableEq

namespace Literal

/-- Doubles are written out in full, whole ones without a point, and a tie goes up. -/
def numbers : Decimal.Layout :=
  { positional := none, pointZero := false, plusSign := false, tie := .up }

def escaped (c : Char) : List Char :=
  if c = '\x00' then ['\\', '0']
  else if c = '\x08' then ['\\', 'b']
  else if c = '\t' then ['\\', 't']
  else if c = '\n' then ['\\', 'n']
  else if c = '\r' then ['\\', 'r']
  else if c = '\x1a' then ['\\', 'Z']
  else if c = '\x22' ∨ c = '\x27' ∨ c = '\\' then ['\\', c]
  else [c]

/-- Text between single quotes. -/
def quotedText (s : String) : String :=
  String.ofList ('\x27' :: s.toList.flatMap escaped ++ ['\x27'])

def sql : Literal → String
  | .null => "NULL"
  | .bool b => if b then "true" else "false"
  | .int n => Digits.signed n
  | .float x => numbers.finite x
  | .quoted s => quotedText s

end Literal

/-- What a value is written as. -/
def Value.literal : Value → Except Failure Literal
  | .null => .ok .null
  | .bool b => .ok (.bool b)
  | .int n => .ok (.int n.toInt)
  | .uint n => .ok (.int n.toNat)
  | .float x => if x.isFinite then .ok (.float x) else .error (.nonFinite x)
  | .text s => .ok (.quoted s)
  | .uuid u => .ok (.quoted u.text)
  | .date d => .ok (.quoted d.text)
  | .dateTime t => .ok (.quoted t.sqlText)
  | .timestamp t => .ok (.quoted t.sqlText)
  | .list items => .ok (.quoted (Value.list items).toJson.text)
  | .object members => .ok (.quoted (Value.object members).toJson.text)

/-- The text of a value in a statement. -/
def Value.sql (v : Value) : Except Failure String := do
  let literal ← v.literal
  return literal.sql

namespace Sql

def literals (values : List Value) : Except Failure String := do
  let texts ← values.mapM Value.sql
  return String.intercalate ", " texts

def assignment (name : String) (value : Value) : Except Failure String := do
  let text ← value.sql
  return identifier name ++ " = " ++ text

/-- Names set to their values, in the order of the bag. -/
def assignments (attributes : Attributes) : Except Failure String := do
  let texts ← attributes.entries.mapM fun (name, value) => assignment name value
  return String.intercalate ", " texts

end Sql

end ResourceSql
