import ResourceSql.Request
import ResourceSql.Sql.Statement
import ResourceSql.Text.Boundary

/-!
# Compilation

Compiling a request gives the text of its statement and what is logged of it.
Nothing is logged of a request that fails.

A logged statement that is longer than the limit is cut at the last boundary between
characters that fits, and three dots mark the cut.
-/

namespace ResourceSql

structure LogEvent where
  operation : String
  table : String
  shown : String
deriving DecidableEq, Repr

structure Compiled where
  sql : String
  log : List LogEvent
deriving DecidableEq, Repr

/-- What is shown of a statement under a limit. -/
def shownInLog (limit : Option Nat) (sql : String) : String :=
  match limit with
  | none => sql
  | some bytes =>
    if sql.utf8ByteSize ≤ bytes then sql
    else Boundary.front sql bytes ++ "..."

def Settings.logOf (settings : Settings) (statement : Statement) (sql : String) :
    List LogEvent :=
  if settings.logsStatements then
    [{ operation := statement.operation
       table := statement.table
       shown := shownInLog settings.logLimit sql }]
  else []

def compile (settings : Settings) (r : Resource) (request : Request) :
    Except Failure Compiled := do
  let statement ← request.statement settings r
  let sql ← statement.sql
  return { sql, log := settings.logOf statement sql }

/-- A request is compiled to the text of the statement that answers it. -/
theorem compile_eq_ok {settings : Settings} {r : Resource} {request : Request}
    {statement : Statement} {sql : String} (hstatement : request.statement settings r = .ok statement)
    (hsql : statement.sql = .ok sql) :
    compile settings r request = .ok { sql, log := settings.logOf statement sql } := by
  unfold compile
  rw [hstatement]
  change (do let text ← statement.sql; _) = _
  rw [hsql]
  rfl

/-- Compiling gives the text of the statement that answers a request. -/
theorem map_sql_compile_eq (settings : Settings) (r : Resource) (request : Request) :
    (compile settings r request).map (·.sql) = (do
      let statement ← request.statement settings r
      statement.sql) := by
  unfold compile
  cases request.statement settings r with
  | error cause => rfl
  | ok statement =>
      change Except.map _ (statement.sql >>= _) = statement.sql
      cases statement.sql <;> rfl

/-- Requests that are answered by one statement, or fail alike, are compiled alike. -/
theorem compile_eq_of_statement_eq {settings : Settings} {r r' : Resource}
    {request request' : Request}
    (h : request.statement settings r = request'.statement settings r') :
    compile settings r request = compile settings r' request' := by
  unfold compile
  rw [h]

/-!
## Logging

A request that is compiled returns its statement or fails, and the log grows as an effect of
that, beside the result.  What is logged before a failure would stay in the log.
-/

def Request.operation : Request → String
  | .insert => "insert"
  | .select => "select"
  | .search _ => "search"
  | .list _ => "list"
  | .delete => "delete"
  | .update _ _ => "update"

/-- Compile a request on a resource, with the log as an effect. -/
def logged (settings : Settings) (r : Resource) (request : Request) :
    ExceptT Failure (StateM (List LogEvent)) String := do
  let statement ← request.statement settings r
  let sql ← statement.sql
  modify (· ++ settings.logOf statement sql)
  return sql

/-- What a log shows of a statement: all of it if there is no limit or if it is within the
limit, and otherwise the longest front within the limit, with three dots after it. -/
def Shows (limit : Option Nat) (sql shown : String) : Prop :=
  ((∀ bytes, limit = some bytes → sql.utf8ByteSize ≤ bytes) ∧ shown = sql) ∨
    ∃ bytes front, limit = some bytes ∧ bytes < sql.utf8ByteSize ∧
      Boundary.LongestFront sql bytes front ∧ shown = front ++ "..."

/-- Settings that differ in what is logged at most. -/
def Settings.SameButLog (a b : Settings) : Prop :=
  a.defaultPageSize = b.defaultPageSize ∧ a.maxPageSize = b.maxPageSize

end ResourceSql
