import ResourceSql.Sql.Form

/-!
# Reading merges back

What the database makes of the arguments of a merge: the texts that are paths are
taken apart into the names of members, and each is paired with the argument after it.
-/

namespace ResourceSql

namespace JsonPath

/-- What is known within a path. -/
inductive Mode where
  /-- After the root, or after a member between quotes. -/
  | ended
  /-- After a dot. -/
  | dot
  /-- In a plain word. -/
  | plain (name : List Char)
  /-- In a member between quotes. -/
  | quoted (name : List Char)
  /-- After a backslash within a member between quotes. -/
  | escape (name : List Char)

namespace Mode

/-- The members that are complete if nothing follows; `none` after a dot and inside
quotes. -/
def finish? : Mode → Option JsonPath
  | .ended => some []
  | .plain name => some [String.ofList name]
  | .dot | .quoted _ | .escape _ => none

/-- Read a character: the members that it completes, and the mode after it. -/
def step? (mode : Mode) (c : Char) : Option (JsonPath × Mode) :=
  match mode with
  | .ended => if c = '.' then some ([], .dot) else none
  | .dot =>
    if c = '\x22' then some ([], .quoted [])
    else if isPlainChar c && !c.isDigit then some ([], .plain [c])
    else none
  | .plain name =>
    if c = '.' then some ([String.ofList name], .dot)
    else if isPlainChar c then some ([], .plain (name ++ [c]))
    else none
  | .quoted name =>
    if c = '\x22' then some ([String.ofList name], .ended)
    else if c = '\\' then some ([], .escape name)
    else some ([], .quoted (name ++ [c]))
  | .escape name => some ([], .quoted (name ++ [c]))

/-- Read characters to the end of a path. -/
def read? (mode : Mode) : List Char → Option JsonPath
  | [] => mode.finish?
  | c :: rest => do
    let (done, mode) ← mode.step? c
    let more ← mode.read? rest
    return done ++ more

end Mode

/-- The path that a text denotes. -/
def ofText? (s : String) : Option JsonPath :=
  match s.toList with
  | '$' :: rest => Mode.ended.read? rest
  | _ => none

end JsonPath

namespace Sql

def Token.isLiteral : Token → Bool
  | .number .. | .text _ => true
  | .word letters => letters == "NULL"
  | .identifier _ | .symbol _ => false

/-- The places and arguments up to the parenthesis that closes a merge. -/
def places? : List Token → Option (List (JsonPath × Argument))
  | [.symbol ')'] => some []
  | .symbol ',' :: .text path :: .symbol ',' :: .word "CAST" :: .symbol '(' :: .text s ::
      .word "AS" :: .word "JSON" :: .symbol ')' :: rest => do
    let path ← JsonPath.ofText? path
    let more ← places? rest
    return (path, .document s) :: more
  | .symbol ',' :: .text path :: .symbol ',' :: token :: rest =>
    if token.isLiteral then do
      let path ← JsonPath.ofText? path
      let more ← places? rest
      return (path, .literal token) :: more
    else none
  | _ => none

/-- The column that a merge writes back to itself, and the places that it sets in it. -/
def merge? : List Token → Option (String × List (JsonPath × Argument))
  | .identifier column :: .symbol '=' :: .word "JSON_SET" :: .symbol '(' ::
      .identifier source :: rest =>
    if source = column then do
      let places ← places? rest
      return (column, places)
    else none
  | _ => none

end Sql

end ResourceSql
