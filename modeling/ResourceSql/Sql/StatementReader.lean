import ResourceSql.Sql.Token

/-!
# Reading statements back

What a statement does, read from its tokens alone: the columns that it writes to, the row
that it inserts, and the rows that it shows.
-/

namespace ResourceSql.Sql

/-!
## Columns that a statement writes

Which columns a statement writes to, read from its tokens alone.  An insertion lists them
between its first parentheses.  In an update they stand in front of the equality signs, up to
the word WHERE.
-/

def Token.name? : Token → Option String
  | .identifier name => some name
  | _ => none

/-- The names in front of equality signs. -/
def assigned : List Token → List String
  | .identifier name :: .symbol '=' :: rest => name :: assigned rest
  | _ :: rest => assigned rest
  | [] => []

def writtenColumns (tokens : List Token) : List String :=
  if tokens.head? = some (.word "INSERT") then
    let opened := tokens.dropWhile (· != .symbol '(')
    (opened.takeWhile (· != .symbol ')')).filterMap Token.name?
  else if tokens.head? = some (.word "UPDATE") then
    assigned (tokens.takeWhile (· != .word "WHERE"))
  else []

/-- The columns that the text of a statement writes to; `none` if it is not a text of the
dialect. -/
def writtenColumns? (sql : String) : Option (List String) :=
  (lex? sql.toList).map writtenColumns

theorem assigned_of_notMem {ts : List Token} (h : .symbol '=' ∉ ts) : assigned ts = [] := by
  fun_induction assigned ts with
  | case1 name rest ih => simp at h
  | case2 t rest hpair ih => exact ih fun hmem => h (List.mem_cons_of_mem t hmem)
  | case3 => rfl

/-- Names are assigned in two runs of tokens apart, unless the second starts with a sign. -/
theorem assigned_append {ts us : List Token} (h : us.head? ≠ some (.symbol '=')) :
    assigned (ts ++ us) = assigned ts ++ assigned us := by
  fun_induction assigned ts with
  | case1 name rest ih =>
      rw [List.cons_append, List.cons_append, assigned, ih, List.cons_append]
  | case2 t rest hpair ih =>
      rw [List.cons_append, assigned.eq_2, ih]
      intro name more ht hrest
      cases rest with
      | nil => exact h (by rw [← List.nil_append us, hrest]; rfl)
      | cons next rest =>
          cases hrest
          exact hpair name rest ht rfl
  | case3 => rfl

/-!
## Rows that an insertion writes

The table, the columns and the values of an insertion, read from its tokens alone.  There is
nothing between the two lists but the word VALUES, and nothing behind them but the end of the
statement.
-/

structure Insertion where
  table : String
  columns : List String
  values : List Token
deriving DecidableEq, Repr

/-- The items of a list with commas between them, each a single token, up to the parenthesis
that closes it, and what follows. -/
def listItems? : List Token → Option (List Token × List Token)
  | t :: .symbol ')' :: rest => some ([t], rest)
  | t :: .symbol ',' :: rest => do
    let (ts, rest) ← listItems? rest
    return (t :: ts, rest)
  | _ => none

def insertion? : List Token → Option Insertion
  | .word "INSERT" :: .word "INTO" :: .identifier table :: .symbol '(' :: tokens => do
    let (columns, tokens) ← listItems? tokens
    let names ← columns.mapM Token.name?
    match tokens with
    | .word "VALUES" :: .symbol '(' :: tokens => do
      let (values, rest) ← listItems? tokens
      if rest = [.symbol ';'] then some ⟨table, names, values⟩ else none
    | _ => none
  | _ => none

/-- What the text of an insertion writes; `none` if it is not the text of an insertion. -/
def insertionOf? (sql : String) : Option Insertion := (lex? sql.toList).bind insertion?

/-!
## Windows of listings

Which rows a listing shows, read from its tokens alone: it passes over as many rows as stand
after OFFSET, and shows as many of the next ones as stand after LIMIT.
-/

/-- A run of rows, by their numbers from zero. -/
structure Window where
  /-- How many rows are shown at most. -/
  limit : Nat
  /-- How many rows are passed over. -/
  offset : Nat
deriving DecidableEq, Repr

def Window.Shows (window : Window) (row : Nat) : Prop :=
  window.offset ≤ row ∧ row < window.offset + window.limit

/-- The window behind the first word LIMIT. -/
def windowOf? : List Token → Option Window
  | .word "LIMIT" :: .number false ⟨limit, 0⟩ :: .word "OFFSET" ::
      .number false ⟨offset, 0⟩ :: _ => some ⟨limit, offset⟩
  | .word "LIMIT" :: _ => none
  | _ :: rest => windowOf? rest
  | [] => none

/-- The window of rows that the text of a listing shows; `none` if there is none. -/
def window? (sql : String) : Option Window := (lex? sql.toList).bind windowOf?

/-- The window stands behind all tokens that are no word LIMIT. -/
theorem windowOf?_append {ts : List Token} (h : .word "LIMIT" ∉ ts) (us : List Token) :
    windowOf? (ts ++ us) = windowOf? us := by
  induction ts with
  | nil => rfl
  | cons t ts ih =>
      have ht : .word "LIMIT" ≠ t := List.ne_of_not_mem_cons h
      rw [List.cons_append, windowOf?.eq_3]
      · exact ih (List.not_mem_of_not_mem_cons h)
      · intro _ _ _ hlimit
        exact (ht hlimit.symm).elim
      · exact fun hlimit => ht hlimit.symm

end ResourceSql.Sql
