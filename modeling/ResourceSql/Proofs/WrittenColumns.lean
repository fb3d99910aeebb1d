import Mathlib.Data.List.Nodup
import ResourceSql.Proofs.EffectiveChanges
import ResourceSql.Proofs.TokenStructure
import ResourceSql.Sql.StatementReader

/-!
# Written columns

The columns that are read from the text of a statement are those that the statement writes
to.  An insertion puts its columns into a bag and so writes each of them once.  An update
writes the columns of its effective changes one after the other, and changes under different
names can have one column.
-/

namespace ResourceSql

open Sql

/-! ## Tokens of assignments -/

/-- A token that neither assigns nor ends the assignments. -/
def Sql.Token.Inner (t : Token) : Prop := t ≠ .symbol '=' ∧ t ≠ .word "WHERE"

theorem Value.inner_token (v : Value) : v.token.Inner := by
  cases v with
  | bool b => cases b <;> simp [Value.token, Token.Inner]
  | _ => simp [Value.token, Token.Inner]

theorem Value.inner_of_mem_argument {v : Value} {t : Token} (h : t ∈ v.argument.tokens) :
    t.Inner := by
  have hdocument : ∀ text, ∀ u ∈ (Argument.document text).tokens, u.Inner := by
    simp [Argument.tokens, Sql.parenthesized, Token.Inner]
  cases v with
  | bool b => exact hdocument _ t h
  | list items => exact hdocument _ t h
  | object members => exact hdocument _ t h
  | _ =>
      rw [List.mem_singleton.mp h]
      exact Value.inner_token _

theorem inner_of_mem_placeTokens {path : JsonPath} {value : Value} {t : Token}
    (h : t ∈ placeTokens path value) : t.Inner := by
  rcases List.mem_append.mp h with h | h
  · simp only [List.mem_cons, List.not_mem_nil, or_false] at h
    rcases h with rfl | rfl | rfl <;> simp [Token.Inner]
  · exact Value.inner_of_mem_argument h

namespace Assignment

/-- An assignment is a column and a sign, with tokens behind them that neither assign nor
end the assignments. -/
theorem exists_tokens_eq (assignment : Assignment) :
    ∃ value, assignment.tokens = .identifier assignment.column :: .symbol '=' :: value ∧
      ∀ t ∈ value, t.Inner := by
  cases assignment with
  | whole column value => exact ⟨[value.token], rfl, by simpa using value.inner_token⟩
  | merge column changes =>
      refine ⟨.word "JSON_SET" :: parenthesized (.identifier column ::
        changes.flatMap fun place => placeTokens place.1 place.2), ?_, ?_⟩
      · simp [tokens, Assignment.column]
      · intro t ht
        simp only [parenthesized, List.mem_cons, List.mem_append, List.mem_flatMap,
          List.not_mem_nil, or_false] at ht
        rcases ht with rfl | (rfl | rfl | ⟨place, -, hplace⟩) | rfl
        · simp [Token.Inner]
        · simp [Token.Inner]
        · simp [Token.Inner]
        · exact inner_of_mem_placeTokens hplace
        · simp [Token.Inner]

theorem assigned_tokens (assignment : Assignment) :
    assigned assignment.tokens = [assignment.column] := by
  obtain ⟨value, htokens, hinner⟩ := assignment.exists_tokens_eq
  rw [htokens, assigned, assigned_of_notMem]
  intro hmem
  exact (hinner _ hmem).1 rfl

theorem where_notMem_tokens (assignment : Assignment) : .word "WHERE" ∉ assignment.tokens := by
  obtain ⟨value, htokens, hinner⟩ := assignment.exists_tokens_eq
  rw [htokens]
  intro hmem
  have hvalue : .word "WHERE" ∈ value := by simpa using hmem
  exact (hinner _ hvalue).2 rfl

end Assignment

/-! ## Columns of statements -/

namespace Sql

theorem assigned_listed (assignments : List Assignment) :
    assigned (listed (assignments.map Assignment.tokens)) = assignments.map Assignment.column := by
  induction assignments with
  | nil => rfl
  | cons first rest ih =>
      cases rest with
      | nil => simpa [listed, List.intercalate] using first.assigned_tokens
      | cons second rest =>
          have hcomma : ∀ ts : List Token, ([Token.symbol ','] ++ ts).head? ≠ some (.symbol '=') := by
            simp
          rw [List.map_cons, List.map_cons, listed_cons_cons, assigned_append (hcomma _),
            first.assigned_tokens, List.map_cons]
          exact congrArg (first.column :: ·) ih

theorem filterMap_name?_listed (names : List String) :
    (listed (names.map fun name => [.identifier name])).filterMap Token.name? = names := by
  induction names with
  | nil => rfl
  | cons first rest ih =>
      cases rest with
      | nil => rfl
      | cons second rest =>
          rw [List.map_cons, List.map_cons, listed_cons_cons]
          exact congrArg (first :: ·) ih

end Sql

namespace Statement

/-- The assignments of an update end at the first word WHERE. -/
theorem takeWhile_assignments (assignments : List Assignment) (rest : List Token) :
    (listed (assignments.map Assignment.tokens) ++ .word "WHERE" :: rest).takeWhile
        (· != .word "WHERE") =
      listed (assignments.map Assignment.tokens) := by
  have hset : ∀ t ∈ listed (assignments.map Assignment.tokens),
      (t != .word "WHERE") = true := by
    intro t ht
    rw [bne_iff_ne]
    rintro rfl
    rcases mem_listed ht with ht | ⟨ts, hts, ht⟩
    · cases ht
    · obtain ⟨assignment, -, rfl⟩ := List.mem_map.mp hts
      exact assignment.where_notMem_tokens ht
  simp [List.takeWhile_append_of_pos hset]

theorem writtenColumns_update (table : String) (assignments : List Assignment)
    (filter : Condition) :
    writtenColumns (Statement.update table assignments filter).tokens =
      assignments.map Assignment.column := by
  have htaken : (Statement.update table assignments filter).tokens.takeWhile
      (· != .word "WHERE") =
        [.word "UPDATE", .identifier table, .word "SET"] ++
          listed (assignments.map Assignment.tokens) := by
    simp [tokens, body, takeWhile_assignments]
  have hhead : (Statement.update table assignments filter).tokens.head? =
      some (.word "UPDATE") := rfl
  rw [writtenColumns, hhead, if_neg (by decide), if_pos rfl, htaken]
  exact assigned_listed assignments

theorem writtenColumns_insert (table : String) (row : Attributes) :
    writtenColumns (Statement.insert table row).tokens = row.names := by
  have hcolumns : ∀ t ∈ listed (row.names.map fun name => [Token.identifier name]),
      (t != .symbol ')') = true := by
    intro t ht
    rcases mem_listed ht with rfl | ⟨ts, hts, ht⟩
    · rfl
    · obtain ⟨name, -, rfl⟩ := List.mem_map.mp hts
      rw [List.mem_singleton.mp ht]
      rfl
  have htaken : ((Statement.insert table row).tokens.dropWhile (· != .symbol '(')).takeWhile
      (· != .symbol ')') =
        .symbol '(' :: listed (row.names.map fun name => [.identifier name]) := by
    simp [tokens, body, parenthesized, List.takeWhile_append_of_pos hcolumns]
  have hhead : (Statement.insert table row).tokens.head? = some (.word "INSERT") := rfl
  rw [writtenColumns, hhead, if_pos rfl]
  dsimp only
  rw [htaken]
  exact filterMap_name?_listed row.names

end Statement

/-! ## Requests -/

section Requests

variable {settings : Settings} {r : Resource} {compiled : Compiled}

/-- An insertion writes the columns of its row, each of them once. -/
theorem exists_writtenColumns?_insert (h : compile settings r .insert = .ok compiled) :
    ∃ columns, writtenColumns? compiled.sql = some columns ∧ columns.Nodup := by
  obtain ⟨statement, hstatement, -⟩ := Failure.exists_of_bind_eq_ok h
  have htokens := lex?_of_statement hstatement h
  obtain ⟨id, -, hrow⟩ := Failure.exists_of_bind_eq_ok hstatement
  cases hrow
  refine ⟨(r.row id).names, ?_, Bag.unique_insertMany (Bag.unique_ofList _) _⟩
  rw [writtenColumns?, htokens, Option.map_some, Statement.writtenColumns_insert]

/-- An update is read as the assignments of its changes, of which there is at least one. -/
theorem exists_lex?_update {revision : Revision} {filter : Condition}
    (h : compile settings r (.update revision filter) = .ok compiled) :
    ∃ changes, revision.changes r.attributes = .ok changes ∧
      Assignment.ofChanges r.attributes changes ≠ [] ∧
      lex? compiled.sql.toList =
        some (Statement.update r.table (Assignment.ofChanges r.attributes changes) filter).tokens := by
  obtain ⟨statement, hstatement, -⟩ := Failure.exists_of_bind_eq_ok h
  have htokens := lex?_of_statement hstatement h
  obtain ⟨changes, hchanges, hupdate⟩ := Failure.exists_of_bind_eq_ok hstatement
  dsimp only at hupdate
  split_ifs at hupdate with hempty
  cases hupdate
  exact ⟨changes, hchanges, by simpa using hempty, htokens⟩

/-- Changes have distinct names if what they come from has. -/
theorem Revision.unique_changes {revision : Revision} {present : Option Attributes}
    {changes : Attributes} (hrevision : revision.Unique present)
    (h : revision.changes present = .ok changes) : changes.Unique := by
  cases revision with
  | given given =>
      cases h
      exact hrevision
  | transformed transform =>
      cases present with
      | none => cases h
      | some before =>
          cases h
          exact Value.unique_bagChanges hrevision before

/-- An update writes the columns of its effective changes, in their order. -/
theorem exists_writtenColumns?_update {revision : Revision} {filter : Condition}
    (h : compile settings r (.update revision filter) = .ok compiled) :
    ∃ changes, revision.changes r.attributes = .ok changes ∧
      writtenColumns? compiled.sql =
        some (((changes.effectiveOn r.attributes).map (·.1)).map StorageName.column) := by
  obtain ⟨changes, hchanges, -, htokens⟩ := exists_lex?_update h
  refine ⟨changes, hchanges, ?_⟩
  rw [writtenColumns?, htokens, Option.map_some, Statement.writtenColumns_update,
    Assignment.map_column_ofChanges]

end Requests

/-- The columns that an insertion writes are distinct.  Those that an update writes are the
columns of its effective changes, and they are distinct if and only if no two of these have
one column.  That asks for changes with distinct names, which they have if the given changes
have them, or the transformed attributes. -/
theorem written_columns_nodup_iff (settings : Settings) (r : Resource) :
    (∀ compiled, compile settings r .insert = .ok compiled →
      ∃ columns, writtenColumns? compiled.sql = some columns ∧ columns.Nodup) ∧
    ∀ revision filter compiled, compile settings r (.update revision filter) = .ok compiled →
      ∃ changes, revision.changes r.attributes = .ok changes ∧
        (revision.Unique r.attributes → changes.Unique) ∧
        let names := (changes.effectiveOn r.attributes).map (·.1)
        writtenColumns? compiled.sql = some (names.map StorageName.column) ∧
          (changes.Unique →
            ((names.map StorageName.column).Nodup ↔
              ∀ a ∈ names, ∀ b ∈ names, StorageName.column a = StorageName.column b → a = b)) := by
  constructor
  · intro compiled h
    exact exists_writtenColumns?_insert h
  · intro revision filter compiled h
    obtain ⟨changes, hchanges, hcolumns⟩ := exists_writtenColumns?_update h
    refine ⟨changes, hchanges, fun hrevision =>
      Revision.unique_changes hrevision hchanges, hcolumns, ?_⟩
    intro hunique
    have hnames : ((changes.effectiveOn r.attributes).map (·.1)).Nodup :=
      hunique.sublist (List.filter_sublist.map _)
    exact List.nodup_map_iff_inj_on hnames

/-- A resource with one attribute. -/
def counted : Resource where
  typeName := "test"
  id := some "x"
  attributes := some ⟨[("count", .int 0)]⟩

/-- The condition that picks it. -/
def isCounted : Condition := .compare "id" .equals (.text "x") false

/-- An update of a second attribute with the first one. -/
def twoColumns : Attributes := ⟨[("fooBar", .int 1), ("count", .int 2)]⟩

/-- An update of two attributes with one column. -/
def oneColumn : Attributes := ⟨[("fooBar", .int 1), ("foo_bar", .int 2)]⟩

theorem written_columns_nodup_iff_twoColumns :
    (∃ compiled, compile {} counted .insert = .ok compiled ∧
      ∃ columns, writtenColumns? compiled.sql = some columns ∧ columns.Nodup) ∧
    ∀ revision ∈ [Revision.given twoColumns, .transformed fun _ => twoColumns],
      ∃ compiled changes,
        compile {} counted (.update revision isCounted) = .ok compiled ∧
          changes.Unique ∧ revision.changes counted.attributes = .ok changes ∧
          let names := (changes.effectiveOn counted.attributes).map (·.1)
          writtenColumns? compiled.sql = some (names.map StorageName.column) ∧
            (names.map StorageName.column).Nodup := by
  obtain ⟨hinsert, hupdate⟩ := written_columns_nodup_iff {} counted
  obtain ⟨inserted, hinserted⟩ : ∃ compiled, compile {} counted .insert = .ok compiled :=
    ⟨_, rfl⟩
  refine ⟨⟨inserted, hinserted, hinsert _ hinserted⟩, ?_⟩
  have hunique : twoColumns.Unique := by
    simp [Bag.Unique, Bag.names, twoColumns]
  have hapart : StorageName.column "fooBar" ≠ StorageName.column "count" := by decide +kernel
  have hnames : (twoColumns.effectiveOn counted.attributes).map (·.1) = ["fooBar", "count"] := rfl
  obtain ⟨updated, hupdated⟩ : ∃ compiled,
      compile {} counted (.update (.given twoColumns) isCounted) = .ok compiled := ⟨_, rfl⟩
  have hsince : twoColumns.changesSince ⟨[("count", .int 0)]⟩ = twoColumns := by
    simp [twoColumns, Attributes.changesSince, Value.bagChanges, Value.entryChanges, Bag.get?,
      Value.equal, Value.changeFrom]
  intro revision hrevision
  obtain ⟨hgives, hdistinct, hcompiled⟩ :
      revision.changes counted.attributes = .ok twoColumns ∧
        revision.Unique counted.attributes ∧
        compile {} counted (.update revision isCounted) = .ok updated := by
    simp only [List.mem_cons, List.not_mem_nil, or_false] at hrevision
    rcases hrevision with rfl | rfl
    · exact ⟨rfl, hunique, hupdated⟩
    · refine ⟨congrArg Except.ok hsince, hunique, ?_⟩
      rw [compile_transformed rfl, hsince]
      exact hupdated
  obtain ⟨changes, hchanges, hderived, hcolumns, hiff⟩ := hupdate _ _ _ hcompiled
  cases hgives.symm.trans hchanges
  refine ⟨updated, twoColumns, hcompiled, hderived hdistinct, hgives, hcolumns,
    (hiff (hderived hdistinct)).mpr ?_⟩
  rw [hnames]
  simp [hapart, hapart.symm]

/-- Two changes with one column are two assignments to it. -/
theorem not_nodup_writtenColumns?_oneColumn :
    ∃ compiled columns,
      compile {} counted (.update (.given oneColumn) isCounted) = .ok compiled ∧
        oneColumn.Unique ∧
        compiled.sql = "UPDATE `tests` SET `foo_bar` = 1, `foo_bar` = 2 WHERE `id` = 'x';" ∧
        writtenColumns? compiled.sql = some columns ∧ ¬ columns.Nodup := by
  obtain ⟨compiled, hcompiled⟩ : ∃ compiled,
      compile {} counted (.update (.given oneColumn) isCounted) = .ok compiled := ⟨_, rfl⟩
  have hunique : oneColumn.Unique := by
    simp [Bag.Unique, Bag.names, oneColumn]
  have hsql : (compile {} counted (.update (.given oneColumn) isCounted)).toOption.map (·.sql) =
      some "UPDATE `tests` SET `foo_bar` = 1, `foo_bar` = 2 WHERE `id` = 'x';" := by
    decide +kernel
  rw [hcompiled] at hsql
  have htext : compiled.sql = "UPDATE `tests` SET `foo_bar` = 1, `foo_bar` = 2 WHERE `id` = 'x';" :=
    Option.some.inj hsql
  have hcolumns : writtenColumns? compiled.sql = some ["foo_bar", "foo_bar"] := by
    rw [htext]
    decide +kernel
  exact ⟨compiled, _, hcompiled, hunique, htext, hcolumns, by decide⟩

end ResourceSql
