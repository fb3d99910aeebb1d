import ResourceSql.Json.Printer

/-!
# Data to be encoded

A `Datum` is data of a program on its way to a document: whole numbers of any
size, records, and maps whose keys need not be text.  Encoding it fails where no
document can hold it.
-/

namespace ResourceSql

/-- Why data has no document. -/
inductive EncodeError where
  /-- A map has a key that is not text. -/
  | keyNotText
  /-- A whole number fits into no 64-bit range. -/
  | numberOutOfRange
deriving DecidableEq

def EncodeError.message : EncodeError → String
  | .keyNotText => "key must be a string"
  | .numberOutOfRange => "number out of range"

/-- A key of a map. -/
inductive MapKey where
  | text (s : String)
  /-- A whole number, which becomes its decimal text. -/
  | integer (n : Int)
  /-- Anything of several parts, which has no text. -/
  | composite
deriving DecidableEq

/-- The text of a key. -/
def MapKey.encode : MapKey → Except EncodeError String
  | .text s => .ok s
  | .integer n => .ok (Digits.signed n)
  | .composite => .error .keyNotText

/-- Data to be encoded. -/
inductive Datum where
  /-- A document as it is. -/
  | document (j : Json)
  | text (s : String)
  | integer (n : Int)
  | float (x : Binary64)
  | list (items : List Datum)
  /-- Named data, in order. -/
  | record (members : List (String × Datum))
  /-- Data under keys, in order. -/
  | map (entries : List (MapKey × Datum))

namespace Datum

mutual

def toJson : Datum → Except EncodeError Json
  | .document j => .ok j
  | .text s => .ok (.string s)
  | .integer n =>
    match WideInt.ofInt? n with
    | some whole => .ok (.int whole)
    | none => .error .numberOutOfRange
  | .float x => .ok (if x.isFinite then .float x else .null)
  | .list items => do
    let documents ← toJsonItems items
    return .array documents
  | .record members => do
    let entries ← toJsonMembers members
    return .object (Bag.ofList entries)
  | .map entries => do
    let members ← toJsonEntries entries
    return .object (Bag.ofList members)

def toJsonItems : List Datum → Except EncodeError (List Json)
  | [] => .ok []
  | item :: rest => do
    let first ← item.toJson
    let others ← toJsonItems rest
    return first :: others

def toJsonMembers : List (String × Datum) → Except EncodeError (List (String × Json))
  | [] => .ok []
  | (name, value) :: rest => do
    let first ← value.toJson
    let others ← toJsonMembers rest
    return (name, first) :: others

def toJsonEntries : List (MapKey × Datum) → Except EncodeError (List (String × Json))
  | [] => .ok []
  | (key, value) :: rest => do
    let name ← key.encode
    let first ← value.toJson
    let others ← toJsonEntries rest
    return (name, first) :: others

end

/-- Put data under a number into a list sorted by number; the datum of a known
number is replaced. -/
def insertByNumber (n : Int) (value : Datum) : List (Int × Datum) → List (Int × Datum)
  | [] => [(n, value)]
  | (m, other) :: rest =>
    if n < m then (n, value) :: (m, other) :: rest
    else if n = m then (n, value) :: rest
    else (m, other) :: insertByNumber n value rest

/-- A map from numbers, which is in the order of the numbers. -/
def ofNumbered (entries : List (Int × Datum)) : Datum :=
  let sorted := entries.foldl (fun acc (n, value) => insertByNumber n value acc) []
  .map (sorted.map fun (n, value) => (.integer n, value))

end Datum

end ResourceSql
