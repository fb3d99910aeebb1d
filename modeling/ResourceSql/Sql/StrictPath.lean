import ResourceSql.Json.Written
import ResourceSql.Sql.ColumnWrites

/-!
# Paths with JSON strings as members

A member of a path is either a plain word or a string of JSON, and a database that holds to
this refuses every other text.  Here such paths are read, and the texts of the paths that an
update hands to the database are found among its tokens.
-/

namespace ResourceSql

namespace JsonPath

/-- A plain word: a letter of ASCII or an underscore, and after it only such characters and
digits. -/
def IsWord (cs : List Char) : Prop :=
  ∃ c rest, cs = c :: rest ∧ (c.isAlpha = true ∨ c = '_') ∧
    ∀ d ∈ rest, d.isAlphanum = true ∨ d = '_'

/-- A text is a well-formed member for a name: it is the name itself, which is a plain word,
or it is a string of JSON that means the name. -/
def WellFormed (name : String) (member : List Char) : Prop :=
  (member = name.toList ∧ IsWord member) ∨
    ∃ body, member = '\x22' :: body ∧ Written.stringBody? body = some (name.toList, [])

/-- Whether a name is free of the control characters that strings of JSON must escape. -/
def isFreeOfControls (name : String) : Bool := name.toList.all fun c => decide (32 ≤ c.toNat)

/-- The names of members to the end of a text, each after a dot, at most `bound` of them. -/
def names? : Nat → List Char → Option JsonPath
  | _, [] => some []
  | bound + 1, '.' :: '\x22' :: body => do
    let (name, rest) ← Written.stringBody? body
    let more ← names? bound rest
    return String.ofList name :: more
  | bound + 1, '.' :: cs =>
    let word := String.ofList (cs.takeWhile isPlainChar)
    if isPlain word then do
      let more ← names? bound (cs.dropWhile isPlainChar)
      return word :: more
    else none
  | _, _ => none

/-- The path that a text denotes if its members are plain words and strings of JSON.  No path
has more members than characters. -/
def ofStrictText? (s : String) : Option JsonPath :=
  match s.toList with
  | '$' :: rest => names? rest.length rest
  | _ => none

end JsonPath

namespace Sql

/-- The texts of the paths in the arguments of a merge, in which each is followed by what is
put there. -/
def pathTexts : List Token → List String
  | .symbol ',' :: .text path :: .symbol ',' :: .word "CAST" :: .symbol '(' :: .text _ ::
      .word "AS" :: .word "JSON" :: .symbol ')' :: rest => path :: pathTexts rest
  | .symbol ',' :: .text path :: .symbol ',' :: _ :: rest => path :: pathTexts rest
  | _ => []

/-- The column of an item that is a merge, with the text of each path in it. -/
def mergePaths : List Token → List (String × String)
  | .identifier column :: .symbol '=' :: .word "JSON_SET" :: .symbol '(' :: .identifier _ ::
      rest => (pathTexts rest).map (column, ·)
  | _ => []

/-- The paths that the tokens of an update set, each with its column. -/
def paths? : List Token → Option (List (String × String))
  | .word "UPDATE" :: .identifier _ :: .word "SET" :: rest =>
    some ((items 0 [] (rest.takeWhile (· != .word "WHERE"))).flatMap mergePaths)
  | _ => none

/-- The paths that the text of an update sets, each with its column; `none` if it is not the
text of an update. -/
def pathsOf? (sql : String) : Option (List (String × String)) :=
  (lex? sql.toList).bind paths?

end Sql

/-- The places at which a change goes into an object that is present. -/
def Value.mergedPlaces : Value → Option Value → List (JsonPath × Value)
  | .object change, some (.object present) => placesInBag [] change present
  | _, _ => []

/-- The places at which changes go into objects that are present, in their order: the name of
the attribute, the path from its object, and the value that is put there. -/
def Attributes.mergedPlaces (changes : Attributes) (present : Option Attributes) :
    List (String × JsonPath × Value) :=
  changes.entries.flatMap fun (name, change) =>
    (change.mergedPlaces (present.bind (·.get? name))).map (name, ·)

/-- What an update hands to the database for a place in an object. -/
structure Sql.PathWritten (place : String × JsonPath × Value) (written : String × String) :
    Prop where
  /-- The path is set in the column of the attribute. -/
  column : written.1 = StorageName.column place.1
  /-- The database takes the path for that of the place if and only if no name on it has a
  control character. -/
  denotes : JsonPath.ofStrictText? written.2 = some place.2.1 ↔
    ∀ name ∈ place.2.1, JsonPath.isFreeOfControls name = true
  /-- Every other path is refused. -/
  refused : JsonPath.ofStrictText? written.2 = none ↔
    ∃ name ∈ place.2.1, JsonPath.isFreeOfControls name = false

end ResourceSql
