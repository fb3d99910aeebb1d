import ResourceSql.Json.Printer
import ResourceSql.Text.Characters

/-!
# Decoding documents

Decoders take a document apart and say why if it is of another kind.  Records are
decoded from the members of an object: the members are visited in the order of the
document and the first one that does not decode is reported; members that the
record does not know are skipped; what is missing is reported afterwards, in the
order of the record.
-/

namespace ResourceSql

/-!
## Outlines

A document that is not what a reader asked for is described by its `Outline`: its
kind, and its content where that is a single value.
-/

/-- What a document looks like from the outside. -/
inductive Outline where
  | null
  | bool (b : Bool)
  | integer (n : Int)
  | float (x : Binary64)
  | text (s : String)
  | sequence
  | map
deriving DecidableEq

def Json.outline : Json → Outline
  | .null => .null
  | .bool b => .bool b
  | .int n => .integer n.val
  | .float x => .float x
  | .string s => .text s
  | .array _ => .sequence
  | .object _ => .map

def Outline.message : Outline → String
  | .null => "null"
  | .bool b => "boolean `" ++ (if b then "true" else "false") ++ "`"
  | .integer n => "integer `" ++ Digits.signed n ++ "`"
  | .float x => "floating point `" ++ Json.floatText x ++ "`"
  | .text s => "string " ++ Quoted.text s
  | .sequence => "sequence"
  | .map => "map"

/-! ## Decoders -/

/-- What a decoder asks of a document. -/
inductive Expected where
  | text
  | int32
  | sequence
  | map
  | record (name : String)
deriving DecidableEq

def Expected.message : Expected → String
  | .text => "a string"
  | .int32 => "i32"
  | .sequence => "a sequence"
  | .map => "a map"
  | .record name => "struct " ++ name

/-- Why a document does not decode. -/
inductive DecodeError where
  | wrongKind (found : Outline) (expected : Expected)
  | outOfRange (n : Int) (expected : Expected)
  | missing (name : String)
  /-- An array has too few elements for a record. -/
  | tooShort (length : Nat) (record : String) (elements : Nat)
  /-- An array has too many elements for a record. -/
  | tooLong (length : Nat)
deriving DecidableEq

def DecodeError.message : DecodeError → String
  | .wrongKind found expected =>
    "invalid type: " ++ found.message ++ ", expected " ++ expected.message
  | .outOfRange n expected =>
    "invalid value: integer `" ++ Digits.signed n ++ "`, expected " ++ expected.message
  | .missing name => "missing field `" ++ name ++ "`"
  | .tooShort length record elements =>
    "invalid length " ++ Digits.decimal length ++ ", expected struct " ++ record ++ " with " ++
      Digits.decimal elements ++ " elements"
  | .tooLong length =>
    "invalid length " ++ Digits.decimal length ++ ", expected fewer elements in array"

namespace Decode

def wrongKind (found : Json) (expected : Expected) : Except DecodeError α :=
  .error (.wrongKind found.outline expected)

def text : Json → Except DecodeError String
  | .string s => .ok s
  | j => wrongKind j .text

def int32 : Json → Except DecodeError Int
  | .int n =>
    if -0x80000000 ≤ n.val ∧ n.val < 0x80000000 then .ok n.val
    else .error (.outOfRange n.val .int32)
  | j => wrongKind j .int32

def items : Json → Except DecodeError (List Json)
  | .array items => .ok items
  | j => wrongKind j .sequence

def members : Json → Except DecodeError (Bag Json)
  | .object members => .ok members
  | j => wrongKind j .map

/-- Null, or what the decoder takes. -/
def nullable (decode : Json → Except DecodeError α) : Json → Except DecodeError (Option α)
  | .null => .ok none
  | j => (decode j).map some

/-- A member that has to be there. -/
def required (name : String) : Option α → Except DecodeError α
  | some value => .ok value
  | none => .error (.missing name)

/-- Visit the members of an object in order, gathering what they give. -/
def visit (step : σ → String → Json → Except DecodeError σ) (start : σ) (members : Bag Json) :
    Except DecodeError σ :=
  members.entries.foldlM (fun gathered (name, value) => step gathered name value) start

end Decode

/-- The form of a member of a record. -/
inductive Shape where
  | text
  | int32
  | list (item : Shape)

def Shape.check : Shape → Json → Except DecodeError Unit
  | .text, j => do let _ ← Decode.text j
  | .int32, j => do let _ ← Decode.int32 j
  | .list item, j => do
    let items ← Decode.items j
    items.forM item.check

/-- The members of a record with their forms, in the order in which it declares them. -/
abbrev RecordShape := Bag Shape

/-- The members of an object that a record declares, in the record's order. -/
def RecordShape.decode (shape : RecordShape) (members : Bag Json) :
    Except DecodeError (Bag Json) := do
  let known ← Decode.visit
    (fun gathered name value =>
      match shape.get? name with
      | some form => do
        form.check value
        return gathered.insert name value
      | none => return gathered)
    Bag.empty members
  let entries ← shape.names.mapM fun name => do
    let value ← Decode.required name (known.get? name)
    return (name, value)
  return ⟨entries⟩

end ResourceSql
