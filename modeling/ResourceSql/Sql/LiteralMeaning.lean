import ResourceSql.Json.Reading
import ResourceSql.Sql.Form

/-!
# What literals stand for

Which token stands for which value.  Numerals stand for a number by their value, not by
their digits: a whole number is read exactly, and a double is the one nearest to what is
written.
-/

namespace ResourceSql

namespace Sql

/-- The whole number that a numeral without a point writes. -/
def Token.integer? : Token → Option Int
  | .number negative ⟨magnitude, 0⟩ => some (if negative then -magnitude else magnitude)
  | _ => none

/-- A token stands for a value: a word for no value and for a truth value, a numeral for a
number, and a text with every character in place for everything else.  Lists and objects
have the text of their document. -/
def Token.StandsFor (token : Token) : Value → Prop
  | .null => token = .word "NULL"
  | .bool b => token = .word (if b then "true" else "false")
  | .int n => token.integer? = some n.toInt
  | .uint n => token.integer? = some n.toNat
  | .float x =>
    ∃ magnitude : Decimal, token = .number x.isNegative magnitude ∧
      magnitude.Denotes x.isNegative (.float x)
  | .text s => token = .text s
  | .uuid u => token = .text u.text
  | .date d => token = .text d.text
  | .dateTime t => token = .text t.sqlText
  | .timestamp t => token = .text t.sqlText
  | .list items => token = .text (Value.list items).toJson.text
  | .object members => token = .text (Value.object members).toJson.text

end Sql

/-!
## What is stored for a value

A document column takes a value in two ways.  An insert or a whole assignment writes the
text of a document, and the value is a member of it.  A merge writes the value as an
argument of its own.  This section says which document each of the two denotes.
-/

open Sql

/-- Whether an argument denotes a document: the word for no value is null, a number is
itself, and a text is itself unless it is cast. -/
def Argument.Denotes : Argument → Json → Prop
  | .literal (.word letters), j => letters = "NULL" ∧ j = .null
  | .literal (.number negative magnitude), j => magnitude.Denotes negative j
  | .literal (.text s), j => j = .string s
  | .literal (.identifier _), _ => False
  | .literal (.symbol _), _ => False
  | .document text, j => j.WrittenAs text

namespace Value

def isMoment : Value → Bool
  | .dateTime _ => true
  | .timestamp _ => true
  | _ => false

/-- To merge the value stores a document. -/
def MergedAs (v : Value) (j : Json) : Prop :=
  ∃ text argument, v.sqlInDocument = .ok text ∧
    lex? text.toList = some (Argument.tokens argument) ∧ argument.Denotes j

/-- To assign the value as a whole stores a document. -/
def AssignedAs (v : Value) (j : Json) : Prop :=
  ∃ text document, v.sql = .ok text ∧ lex? text.toList = some [.text document] ∧
    j.WrittenAs document

end Value

end ResourceSql
