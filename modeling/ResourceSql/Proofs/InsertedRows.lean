import ResourceSql.Proofs.EffectiveChanges
import ResourceSql.Proofs.LiteralReading
import ResourceSql.Proofs.StoredRows
import ResourceSql.Sql.StatementReader

/-!
# Inserted rows

An insertion lists its columns and then its values in one and the same order.  Which column
stands where, and which value belongs to it, is said of the attributes alone: a column stands
where the first attribute with this column does, and has the value of the last one.
-/

namespace ResourceSql

open Sql

/-! ## Tokens of insertions -/

namespace Sql

theorem listItems?_listed {ts : List Token} (hts : ts ≠ []) (rest : List Token) :
    listItems? (listed (ts.map ([·])) ++ .symbol ')' :: rest) = some (ts, rest) := by
  induction ts with
  | nil => exact absurd rfl hts
  | cons first ts ih =>
      cases ts with
      | nil => rfl
      | cons second ts =>
          have hmore := ih (List.cons_ne_nil second ts)
          rw [List.map_cons] at hmore
          rw [List.map_cons, List.map_cons, listed_cons_cons]
          simp only [List.cons_append, List.nil_append]
          rw [listItems?, hmore]
          rfl

theorem mapM_name?_identifier (names : List String) :
    (names.map Token.identifier).mapM Token.name? = some names := by
  induction names with
  | nil => rfl
  | cons name names ih =>
      rw [List.map_cons, List.mapM_cons, ih]
      rfl

end Sql

/-- What is read from an insertion is its row. -/
theorem Statement.insertion?_insert {table : String} {row : Attributes} (hrow : row.names ≠ []) :
    insertion? (Statement.insert table row).tokens =
      some ⟨table, row.names, row.values.map Value.token⟩ := by
  have hnames : row.names.map Token.identifier ≠ [] := by simpa using hrow
  have hvalues : row.values.map Value.token ≠ [] := by
    simpa [Bag.names, Bag.values] using hrow
  have htokens : (Statement.insert table row).tokens =
      .word "INSERT" :: .word "INTO" :: .identifier table :: .symbol '(' ::
        (listed ((row.names.map Token.identifier).map ([·])) ++ .symbol ')' :: .word "VALUES" ::
          .symbol '(' :: (listed ((row.values.map Value.token).map ([·])) ++
            [.symbol ')', .symbol ';'])) := by
    simp [Statement.tokens, Statement.body, parenthesized, Function.comp_def]
  simp only [htokens, insertion?, listItems?_listed hnames, mapM_name?_identifier,
    listItems?_listed hvalues, Option.bind_eq_bind, Option.bind_some, if_true]

/-! ## Rows -/

namespace Resource

variable (r : Resource)

/-- The columns that an insertion writes: that of the identifier, and then those of the
attributes, each where it first comes up. -/
def insertedColumns : List String :=
  "id" :: ((r.columns.map (·.1)).filter (· ≠ "id")).eraseDups

/-- The value that an insertion writes into a column: that of the last attribute with the
column, or the identifier if there is none. -/
def insertedValue (id column : String) : Value :=
  ((r.columns.reverse.find? (·.1 == column)).map (·.2)).getD (.text id)

theorem row_eq_insertMany (id : String) :
    r.row id = (Bag.ofList [("id", .text id)]).insertMany r.columns :=
  rfl

theorem names_row (id : String) : (r.row id).names = r.insertedColumns := by
  have hid : (Bag.ofList [("id", Value.text id)]).names = ["id"] := rfl
  rw [row_eq_insertMany, Bag.names_insertMany, hid]
  simp [insertedColumns]

theorem unique_row (id : String) : (r.row id).Unique :=
  Bag.unique_insertMany (Bag.unique_ofList _) _

theorem get?_row (id : String) {column : String} (h : column ∈ (r.row id).names) :
    (r.row id).get? column = some (r.insertedValue id column) := by
  rw [row_eq_insertMany] at h ⊢
  rw [Bag.get?_insertMany, insertedValue]
  cases hfound : r.columns.reverse.find? (·.1 == column) with
  | some found => rfl
  | none =>
      -- Only the column of the identifier can do without an attribute.
      have hcolumn : column = "id" := by
        rcases Bag.mem_names_insertMany h with h | h
        · simpa [Bag.ofList, Bag.insertMany, Bag.names_insert] using h
        · obtain ⟨entry, hentry, rfl⟩ := List.mem_map.mp h
          simpa using List.find?_eq_none.mp hfound entry (List.mem_reverse.mpr hentry)
      subst hcolumn
      rfl

theorem values_row (id : String) :
    (r.row id).values = r.insertedColumns.map (r.insertedValue id) := by
  rw [← names_row r id]
  exact Bag.values_eq_map (r.unique_row id) fun _ h => r.get?_row id h

end Resource

/-- A token is the literal of a value: it is what the text of the value is read as, and it
stands for the value. -/
def Sql.Token.IsLiteralOf (token : Token) (v : Value) : Prop :=
  (∃ text, v.sql = .ok text ∧ lex? text.toList = some [token]) ∧ token.StandsFor v

theorem Value.isLiteralOf_token {v : Value} (h : ∀ x, v = .float x → x.isFinite = true) :
    v.token.IsLiteralOf v := by
  obtain ⟨text, htext⟩ := Value.exists_sql_eq h
  exact ⟨⟨text, htext, Value.reads_sql htext⟩, Value.standsFor_token htext⟩

/-- An insertion writes each column once, with its value at the same place.  The columns are
that of the identifier and those of the attributes, in the order in which they first come up;
the value of a column is that of the last attribute with the column, or the identifier if
there is none. -/
theorem exists_insertionOf?_compile (settings : Settings) {r : Resource} {id : String}
    (hid : r.id = some id) (hne : id ≠ "")
    (hfinite : ∀ column ∈ r.insertedColumns, ∀ x,
      r.insertedValue id column = .float x → x.isFinite = true) :
    ∃ compiled insertion, compile settings r .insert = .ok compiled ∧
      insertionOf? compiled.sql = some insertion ∧ insertion.table = r.table ∧
      insertion.columns = r.insertedColumns ∧ insertion.columns.Nodup ∧
      insertion.values.length = insertion.columns.length ∧
      List.Forall₂ (fun column token => token.IsLiteralOf (r.insertedValue id column))
        insertion.columns insertion.values := by
  have hvalues := r.values_row id
  have hwritten : ∀ v ∈ (Statement.insert r.table (r.row id)).values, v.nonFinite? = none := by
    intro v hv
    rw [Statement.values, hvalues] at hv
    obtain ⟨column, hcolumn, rfl⟩ := List.mem_map.mp hv
    exact Value.nonFinite?_eq_none (hfinite column hcolumn)
  obtain ⟨sql, hsql⟩ := (Statement.failsOnFirst_sql _).exists_ok hwritten
  have hstatement := Request.statement_insert hid hne settings
  have hcompiled := compile_eq_ok hstatement hsql
  have hread : insertionOf? sql =
      some ⟨r.table, r.insertedColumns, (r.row id).values.map Value.token⟩ := by
    have hcolumns : (r.row id).names ≠ [] := by
      rw [r.names_row]
      exact List.cons_ne_nil _ _
    rw [insertionOf?, lex?_of_statement hstatement hcompiled, Option.bind_some,
      Statement.insertion?_insert hcolumns, r.names_row]
  refine ⟨_, _, hcompiled, hread, rfl, rfl, ?nodup, ?length, ?aligned⟩
  case nodup =>
      rw [← r.names_row id]
      exact r.unique_row id
  case length => simp [hvalues]
  case aligned =>
      rw [hvalues, List.map_map, List.forall₂_map_right_iff, List.forall₂_same]
      intro column hcolumn
      exact Value.isLiteralOf_token (hfinite column hcolumn)

/-- A resource whose attributes share columns, one of them that of the identifier. -/
def sharedColumns : Resource where
  typeName := "user"
  id := some "u1"
  attributes := some
    ⟨[("fooBar", .float ⟨0x7ff8000000000000⟩), ("name", .text "a, 'b')"), ("ID", .uint 7),
      ("foo_bar", .list [.null, .text ","]), ("Name", .null)]⟩

theorem exists_insertionOf?_compile_sharedColumns :
    (∀ column ∈ sharedColumns.insertedColumns, ∀ x,
      sharedColumns.insertedValue "u1" column = .float x → x.isFinite = true) ∧
    ∃ compiled insertion, compile {} sharedColumns .insert = .ok compiled ∧
      insertionOf? compiled.sql = some insertion ∧
      insertion.columns = ["id", "foo_bar", "name"] ∧
      List.Forall₂ (fun column token => token.IsLiteralOf (sharedColumns.insertedValue "u1" column))
        insertion.columns insertion.values := by
  have hcolumns : sharedColumns.insertedColumns = ["id", "foo_bar", "name"] := by
    decide +kernel
  have hfinite : ∀ column ∈ sharedColumns.insertedColumns, ∀ x,
      sharedColumns.insertedValue "u1" column = .float x → x.isFinite = true := by
    rw [hcolumns]
    intro column hcolumn x hx
    simp only [List.mem_cons, List.not_mem_nil, or_false] at hcolumn
    rcases hcolumn with rfl | rfl | rfl <;> cases hx
  obtain ⟨compiled, insertion, hcompiled, hread, -, hnames, -, -, haligned⟩ :=
    exists_insertionOf?_compile {} (r := sharedColumns) rfl (by decide) hfinite
  exact ⟨hfinite, compiled, insertion, hcompiled, hread, hnames.trans hcolumns, haligned⟩

end ResourceSql
