import ResourceSql.Decimal
import ResourceSql.Json.Basic

/-!
# JSON text

The compact text of a document: no blanks, members in order, and escapes only
where the grammar asks for them.  Numbers are written in the format
`Json.numbers`.
-/

namespace ResourceSql.Json

/-- Doubles keep a point or an exponent.  They are positional while the leading
digit stands between the fifth place after the point and the sixteenth before it;
an exponent carries its sign, and a tie goes to the even digit. -/
def numbers : Decimal.Layout :=
  { positional := some (-5, 15), pointZero := true, plusSign := true, tie := .even }

/-- A double as a number; one that is not finite has no number and is null. -/
def floatText (x : Binary64) : String :=
  if x.isFinite then numbers.finite x else "null"

/-- A character inside a string: quotes, backslashes and controls are escaped. -/
def escaped (c : Char) : List Char :=
  if c = '\x22' ∨ c = '\\' then ['\\', c]
  else if c = '\x08' then ['\\', 'b']
  else if c = '\x0c' then ['\\', 'f']
  else if c = '\n' then ['\\', 'n']
  else if c = '\r' then ['\\', 'r']
  else if c = '\t' then ['\\', 't']
  else if c.toNat < 32 then
    ['\\', 'u'] ++ Digits.padLeft 4 (Digits.ofNat 16 c.toNat)
  else [c]

def quoted (s : String) : List Char :=
  '\x22' :: s.toList.flatMap escaped ++ ['\x22']

mutual

def chars : Json → List Char
  | .null => "null".toList
  | .bool b => (if b then "true" else "false").toList
  | .int n => (Digits.signed n.val).toList
  | .float x => (floatText x).toList
  | .string s => quoted s
  | .array items => '[' :: charsOfItems items ++ [']']
  | .object members => '\x7b' :: charsOfBag members ++ ['\x7d']

def charsOfItems : List Json → List Char
  | [] => []
  | item :: rest => item.chars ++ charsAfterItem rest

/-- The items after the first, each with a comma before it. -/
def charsAfterItem : List Json → List Char
  | [] => []
  | item :: rest => ',' :: item.chars ++ charsAfterItem rest

def charsOfBag : Bag Json → List Char
  | ⟨entries⟩ => charsOfMembers entries

def charsOfMembers : List (String × Json) → List Char
  | [] => []
  | (name, value) :: rest => quoted name ++ ':' :: value.chars ++ charsAfterMember rest

/-- The members after the first, each with a comma before it. -/
def charsAfterMember : List (String × Json) → List Char
  | [] => []
  | (name, value) :: rest => ',' :: quoted name ++ ':' :: value.chars ++ charsAfterMember rest

end

/-- The compact text of a document. -/
def text (j : Json) : String := String.ofList j.chars

end ResourceSql.Json
