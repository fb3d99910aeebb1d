import ResourceSql.English.Plural
import ResourceSql.Text.Characters

/-!
# Names in storage

The table of a resource type and the column of an attribute.  Both are names in snake
case, and a table has the plural of its type.
-/

namespace ResourceSql

/-!
## Snake case

A name in snake case is its words in lower case, joined by underscores.  Words
are divided by every character that is neither a letter nor a digit, and inside a
run of letters and digits by changes of case: before a capital after small
letters (`createdAt`), and before the last capital of a run of capitals that a
small letter follows (`HTTPServer`).  Characters without case continue the run
they stand in.
-/

namespace SnakeCase

open Unicode

/-- What the current word has been so far, up to its last character with case. -/
inductive Run where
  /-- No character with case since the last cut. -/
  | uncased
  | small
  | capital
deriving DecidableEq, Repr

def Run.after (run : Run) (c : Char) : Run :=
  if isLowercase c then .small else if isUppercase c then .capital else run

/-- Cut letters and digits into words.  `word` holds the characters of the current
word, last one first.  A cut before a character starts its word as uncased. -/
def cutWords (run : Run) (word : List Char) : List Char → List (List Char)
  | [] => []
  | [c] => [(c :: word).reverse]
  | c :: next :: rest =>
    if run.after c = .small ∧ isUppercase next then
      (c :: word).reverse :: cutWords .uncased [] (next :: rest)
    else if run = .capital ∧ isUppercase c ∧ isLowercase next then
      word.reverse :: cutWords .uncased [c] (next :: rest)
    else cutWords (run.after c) (c :: word) (next :: rest)

def wordsOf (name : List Char) : List (List Char) :=
  (name.splitOnP fun c => !isAlphanumeric c).flatMap (cutWords .uncased [])

/-- A word in lower case; a capital sigma is final at its end only. -/
def lowerWord : List Char → List Char
  | [] => []
  | [c] => if c = 'Σ' then ['ς'] else LetterCase.lowerChar c
  | c :: rest => LetterCase.lowerChar c ++ lowerWord rest

def chars (name : List Char) : List Char :=
  List.intercalate ['_'] ((wordsOf name).map lowerWord)

/-- A name in snake case. -/
def ofName (name : String) : String := String.ofList (chars name.toList)

end SnakeCase

/-! ## Tables and columns -/

namespace StorageName

/-- The table that holds the resources of a type: its plural in snake case. -/
def table (typeName : String) : String := SnakeCase.ofName (English.plural typeName)

/-- The column that holds an attribute: its name in snake case. -/
def column (name : String) : String := SnakeCase.ofName name

end StorageName

end ResourceSql
