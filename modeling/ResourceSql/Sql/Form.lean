import ResourceSql.Request
import ResourceSql.Sql.Literal
import ResourceSql.Sql.Statement
import ResourceSql.Sql.Token

/-!
# Forms

The tokens that a statement is made of, said without its text.  Keywords and
punctuation belong to the kind of the statement; everything that a caller gives is
an identifier, a numeral or a quoted text at its place.  Tables and the columns
that are written to are single identifiers.  Columns that a condition or a sort key
names are taken apart at their dots.

`Request.HasForm` says which statement a request asks for, part by part.
-/

namespace ResourceSql

namespace Sql

/-- A name as identifiers with dots between them. -/
def qualified (name : String) : List Token :=
  ((name.toList.splitOn '.').map fun part => .identifier (String.ofList part)).intersperse
    (.symbol '.')

def listed (items : List (List Token)) : List Token := [.symbol ','].intercalate items

def parenthesized (tokens : List Token) : List Token :=
  [.symbol '('] ++ tokens ++ [.symbol ')']

end Sql

open Sql

/-- A decimal without positive exponent, of the same value. -/
def Decimal.writtenOut (d : Decimal) : Decimal :=
  if 0 ≤ d.exponent then ⟨d.coefficient * Nat.pow 10 d.exponent.toNat, 0⟩ else d

def Value.token : Value → Token
  | .null => .word "NULL"
  | .bool b => .word (if b then "true" else "false")
  | .int n => .number (n.toInt < 0) ⟨n.toInt.natAbs, 0⟩
  | .uint n => .number false ⟨n.toNat, 0⟩
  | .float x => .number x.isNegative (Decimal.shortest .up x).writtenOut
  | .text s => .text s
  | .uuid u => .text u.text
  | .date d => .text d.text
  | .dateTime t => .text t.sqlText
  | .timestamp t => .text t.sqlText
  | .list items => .text (Value.list items).toJson.text
  | .object members => .text (Value.object members).toJson.text

/-- An argument of a function that changes a document. -/
inductive Argument where
  | literal (token : Token)
  /-- A text that is cast to a document. -/
  | document (text : String)
deriving DecidableEq

def Argument.tokens : Argument → List Token
  | .literal token => [token]
  | .document text =>
    .word "CAST" :: parenthesized [.text text, .word "AS", .word "JSON"]

/-- The argument by which a value goes into a document. -/
def Value.argument : Value → Argument
  | .bool b => .document (Value.bool b).toJson.text
  | .list items => .document (Value.list items).toJson.text
  | .object members => .document (Value.object members).toJson.text
  | v => .literal v.token

def placeTokens (path : JsonPath) (value : Value) : List Token :=
  [.symbol ',', .text (JsonPath.text path), .symbol ','] ++ value.argument.tokens

def Assignment.tokens : Assignment → List Token
  | .whole column value => [.identifier column, .symbol '=', value.token]
  | .merge column changes =>
    [.identifier column, .symbol '=', .word "JSON_SET"] ++
      parenthesized
        (.identifier column :: changes.flatMap fun (path, value) => placeTokens path value)

def Comparison.tokens (comparison : Comparison) (key : String) (value : Token) : List Token :=
  match comparison with
  | .equals => qualified key ++ [.symbol '=', value]
  | .like => qualified key ++ [.word "LIKE", value]
  | .jsonContains =>
    .word "JSON_CONTAINS" :: parenthesized (qualified key ++ [.symbol ',', value])

def Connective.token : Connective → Token
  | .and => .word "AND"
  | .or => .word "OR"

def Condition.tokens : Condition → List Token
  | .compare key comparison value negated =>
    (if negated then [.word "NOT"] else []) ++ comparison.tokens key value.token
  | .join connective left right negated =>
    let joined := left.tokens ++ [connective.token] ++ right.tokens
    if negated then .word "NOT" :: parenthesized joined else joined

def SortKey.tokens (key : SortKey) : List Token :=
  qualified key.column ++ if key.descending then [.word "DESC"] else []

def Page.filterTokens (page : Page) : List Token :=
  match page.filter with
  | some filter => .word "WHERE" :: filter.tokens
  | none => []

def Page.orderTokens (page : Page) : List Token :=
  if page.order.isEmpty then []
  else [.word "ORDER", .word "BY"] ++ listed (page.order.map SortKey.tokens)

def Page.tokens (page : Page) : List Token :=
  page.filterTokens ++ page.orderTokens ++
    [.word "LIMIT", .number false ⟨page.limit, 0⟩, .word "OFFSET",
      .number false ⟨page.offset, 0⟩]

namespace Statement

/-- The tokens of a statement before the semicolon that ends it. -/
def body : Statement → List Token
  | .insert table row =>
    [.word "INSERT", .word "INTO", .identifier table] ++
      parenthesized (listed (row.names.map fun name => [.identifier name])) ++
      [.word "VALUES"] ++ parenthesized (listed (row.values.map fun value => [value.token]))
  | .select table id =>
    [.word "SELECT", .symbol '*', .word "FROM", .identifier table, .word "WHERE",
      .identifier "id", .symbol '=', .text id, .word "LIMIT", .number false ⟨1, 0⟩]
  | .search table filter =>
    [.word "SELECT", .symbol '*', .word "FROM", .identifier table, .word "WHERE"] ++
      filter.tokens
  | .list table page =>
    [.word "SELECT", .symbol '*', .word "FROM", .identifier table, .word "INNER",
      .word "JOIN"] ++
      parenthesized
        ([.word "SELECT", .identifier "id", .word "FROM", .identifier table] ++ page.tokens) ++
      [.word "AS", .identifier "result", .word "USING"] ++ parenthesized [.identifier "id"]
  | .delete table id =>
    [.word "DELETE", .word "FROM", .identifier table, .word "WHERE", .identifier "id",
      .symbol '=', .text id]
  | .update table assignments filter =>
    [.word "UPDATE", .identifier table, .word "SET"] ++
      listed (assignments.map Assignment.tokens) ++ [.word "WHERE"] ++ filter.tokens

def tokens (statement : Statement) : List Token := statement.body ++ [.symbol ';']

end Statement

/-! ## Requests -/

/-- What a sort key asks for.  A minus sign with more after it sorts descending by what
stands after it; every other key sorts ascending by itself. -/
def SortKey.asked (s : String) : SortKey :=
  if s.toList.head? = some '-' ∧ 1 < s.toList.length then ⟨String.ofList s.toList.tail, true⟩
  else ⟨s, false⟩

namespace Sql

/-- How many parentheses are open after tokens, if none is closed that was not opened. -/
def openAfter? : Nat → List Token → Option Nat
  | depth, [] => some depth
  | depth, .symbol '(' :: rest => openAfter? (depth + 1) rest
  | 0, .symbol ')' :: _ => none
  | depth + 1, .symbol ')' :: rest => openAfter? depth rest
  | depth, _ :: rest => openAfter? depth rest

end Sql

end ResourceSql
