import ResourceSql.Decimal
import ResourceSql.Text.Characters
import ResourceSql.Value.Basic

/-!
# Showing values

The text in which a value is shown to a developer: its kind, with its content in
parentheses.
-/

namespace ResourceSql.Value

/-- Doubles keep a point or an exponent; they are positional while the leading
digit stands between the fourth place after the point and the sixteenth before it,
and a tie goes up. -/
def shownNumbers : Decimal.Layout :=
  { positional := some (-4, 15), pointZero := true, plusSign := false, tie := .up }

def shownFloat (x : Binary64) : String :=
  if x.isFinite then shownNumbers.finite x else Decimal.nonFinite x

def tagged (kind content : String) : String := kind ++ "(" ++ content ++ ")"

mutual

def display : Value → String
  | .null => "Null"
  | .bool b => tagged "Bool" (if b then "true" else "false")
  | .int n => tagged "Int" (Digits.signed n.toInt)
  | .uint n => tagged "UInt" (Digits.decimal n.toNat)
  | .float x => tagged "Float" (shownFloat x)
  | .text s => tagged "Text" (Quoted.text s)
  | .uuid u => tagged "Uuid" u.text
  | .date d => tagged "Date" d.text
  | .dateTime t => tagged "DateTime" t.jsonText
  | .timestamp t => tagged "Timestamp" t.utcText
  | .list items => tagged "List" ("[" ++ String.intercalate ", " (displayItems items) ++ "]")
  | .object members => tagged "Object" (displayBag members)

def displayItems : List Value → List String
  | [] => []
  | item :: rest => item.display :: displayItems rest

def displayBag : Bag Value → String
  | ⟨entries⟩ =>
    "Fields \x7b items: [" ++ String.intercalate ", " (displayEntries entries) ++ "] \x7d"

def displayEntries : List (String × Value) → List String
  | [] => []
  | (name, value) :: rest =>
    ("(" ++ Quoted.text name ++ ", " ++ value.display ++ ")") :: displayEntries rest

end

end ResourceSql.Value
