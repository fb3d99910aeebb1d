import ResourceSql.Condition
import ResourceSql.Sql.Literal
import ResourceSql.Statement
import ResourceSql.Value.Change

/-!
# Statements as text

The text of a compiled statement.  The parts are written from left to right, so
that of several values without a literal the leftmost one is reported.
-/

namespace ResourceSql

/-!
## Paths as text

A path starts at the root `$` and goes down by dots.  A member's name that is a
plain word is written as it is, every other one between double quotes.
-/

namespace JsonPath

/-- Whether a character can stand in a plain word: a letter, a digit or an underscore of
ASCII. -/
def isPlainChar (c : Char) : Bool := c.isAlphanum || c == '_'

/-- Whether a member's name can stand in a path without quotes: it has a first character,
that one is no digit, and all of them can stand in a plain word. -/
def isPlain (name : String) : Bool :=
  name.toList.head?.any (fun c => isPlainChar c && !c.isDigit) && name.toList.all isPlainChar

/-- A character of a member's name between quotes: a backslash stands before a quote and
before another backslash. -/
def escaped (c : Char) : List Char :=
  if c = '\x22' ∨ c = '\\' then ['\\', c] else [c]

def quotedMember (name : String) : List Char :=
  '\x22' :: name.toList.flatMap escaped ++ ['\x22']

def member (name : String) : List Char :=
  if isPlain name then name.toList else quotedMember name

/-- The text of a path from the root of the document. -/
def text (path : JsonPath) : String :=
  String.ofList ('$' :: path.flatMap fun name => '.' :: member name)

end JsonPath

/-!
## Conditions as text

A condition is written from left to right.  Only a negated join is put in
parentheses; elsewhere the grouping is that of the dialect's precedence, in which
a comparison binds tighter than NOT, NOT tighter than AND, and AND tighter than
OR.
-/

def Connective.sql : Connective → String
  | .and => "AND"
  | .or => "OR"

def Comparison.sql (comparison : Comparison) (key literal : String) : String :=
  match comparison with
  | .equals => Sql.identifier key ++ " = " ++ literal
  | .like => Sql.identifier key ++ " LIKE " ++ literal
  | .jsonContains => "JSON_CONTAINS(" ++ Sql.identifier key ++ ", " ++ literal ++ ")"

def Condition.sql : Condition → Except Failure String
  | .compare key comparison value negated => do
    let literal ← value.sql
    return (if negated then "NOT " else "") ++ comparison.sql key literal
  | .join connective left right negated => do
    let leftText ← left.sql
    let rightText ← right.sql
    let joined := leftText ++ " " ++ connective.sql ++ " " ++ rightText
    return if negated then "NOT (" ++ joined ++ ")" else joined

/-! ## Statements -/

/-- The text of a value as part of a document: truth values, lists and objects are
cast from the text of their document, all else is a literal. -/
def Value.sqlInDocument : Value → Except Failure String
  | .bool b => .ok (cast (.bool b))
  | .list items => .ok (cast (.list items))
  | .object members => .ok (cast (.object members))
  | v => v.sql
where
  cast (v : Value) : String := "CAST(" ++ Literal.quotedText v.toJson.text ++ " AS JSON)"

namespace Sql

def placed (path : JsonPath) (value : Value) : Except Failure String := do
  let text ← value.sqlInDocument
  return ", " ++ Literal.quotedText (JsonPath.text path) ++ ", " ++ text

end Sql

def Assignment.sql : Assignment → Except Failure String
  | .whole column value => Sql.assignment column value
  | .merge column changes => do
    let places ← changes.mapM fun (path, value) => Sql.placed path value
    let quoted := Sql.identifier column
    return quoted ++ " = JSON_SET(" ++ quoted ++ String.join places ++ ")"

def SortKey.sql (key : SortKey) : String :=
  if key.descending then Sql.identifier key.column ++ " DESC" else Sql.identifier key.column

def Page.filterClause (page : Page) : Except Failure String :=
  match page.filter with
  | some filter => do
    let text ← filter.sql
    return " WHERE " ++ text
  | none => .ok ""

def Page.orderClause (page : Page) : String :=
  if page.order.isEmpty then ""
  else " ORDER BY " ++ String.intercalate ", " (page.order.map SortKey.sql)

def Statement.sql : Statement → Except Failure String
  | .insert table row => do
    let values ← Sql.literals row.values
    return "INSERT INTO " ++ Sql.identifier table ++ " (" ++ Sql.identifiers row.names ++
      ") VALUES (" ++ values ++ ");"
  | .select table id =>
    .ok ("SELECT * FROM " ++ Sql.identifier table ++ " WHERE `id` = " ++
      Literal.quotedText id ++ " LIMIT 1;")
  | .search table filter => do
    let text ← filter.sql
    return "SELECT * FROM " ++ Sql.identifier table ++ " WHERE " ++ text ++ ";"
  | .list table page => do
    let filter ← page.filterClause
    let quoted := Sql.identifier table
    return "SELECT * FROM " ++ quoted ++ " INNER JOIN ( SELECT `id` FROM " ++ quoted ++ filter ++
      page.orderClause ++ " LIMIT " ++ Digits.decimal page.limit ++ " OFFSET " ++
      Digits.decimal page.offset ++ " ) AS `result` USING (`id`);"
  | .delete table id =>
    .ok ("DELETE FROM " ++ Sql.identifier table ++ " WHERE `id` = " ++
      Literal.quotedText id ++ ";")
  | .update table assignments filter => do
    let texts ← assignments.mapM Assignment.sql
    let text ← filter.sql
    return "UPDATE " ++ Sql.identifier table ++ " SET " ++ String.intercalate ", " texts ++
      " WHERE " ++ text ++ ";"

/-!
## Values that a text writes

The values that are written into a text, from left to right.  A double that is not finite has
no literal; a text that would have to write some of them fails on the first.
-/

/-- The double that keeps a value from having a literal. -/
def Value.nonFinite? : Value → Option Binary64
  | .float x => if x.isFinite then none else some x
  | _ => none

/-- A text of values fails on the first of them that has no literal, and is written if each of
them has one. -/
def Sql.FailsOnFirst {α : Type} (text : Except Failure α) (values : List Value) : Prop :=
  match values.findSome? Value.nonFinite? with
  | some x => text = .error (.nonFinite x)
  | none => ∃ a, text = .ok a

def Condition.values : Condition → List Value
  | .compare _ _ value _ => [value]
  | .join _ left right _ => left.values ++ right.values

def Assignment.values : Assignment → List Value
  | .whole _ value => [value]
  | .merge _ changes => changes.map (·.2)

def Page.values (page : Page) : List Value :=
  match page.filter with
  | some filter => filter.values
  | none => []

def Statement.values : Statement → List Value
  | .insert _ row => row.values
  | .select _ id => [.text id]
  | .search _ filter => filter.values
  | .list _ page => page.values
  | .delete _ id => [.text id]
  | .update _ assignments filter => assignments.flatMap Assignment.values ++ filter.values

end ResourceSql
