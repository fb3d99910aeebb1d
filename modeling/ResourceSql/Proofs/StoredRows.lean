import ResourceSql.Proofs.ColumnNames
import ResourceSql.Proofs.TokenStructure
import ResourceSql.Resource.Entity

/-!
# Rows and the entities they hold

A row that an insertion writes begins with the identifier, and its other columns have
names that stay as they are when they are made columns again.  The entity that is read
from the row therefore has the identifier and the other columns as its attributes, and
is inserted as the same row.
-/

namespace ResourceSql

namespace Bag

variable {α : Type}

theorem insert_cons_of_ne {entry : String × α} {name : String} (hne : name ≠ entry.1)
    (entries : List (String × α)) (value : α) :
    (⟨entry :: entries⟩ : Bag α).insert name value =
      ⟨entry :: ((⟨entries⟩ : Bag α).insert name value).entries⟩ := by
  unfold insert
  rw [insertEntry, if_neg hne.symm]

/-- The first entry stays in front of entries that are inserted under other names. -/
theorem insertMany_cons_of_forall_ne {entry : String × α} {more : List (String × α)}
    (hmore : ∀ name ∈ more.map (·.1), name ≠ entry.1) (entries : List (String × α)) :
    (⟨entry :: entries⟩ : Bag α).insertMany more =
      ⟨entry :: ((⟨entries⟩ : Bag α).insertMany more).entries⟩ := by
  induction more generalizing entries with
  | nil => rfl
  | cons first more ih =>
      have hrest := ih fun name hname => hmore name (List.mem_cons_of_mem _ hname)
      unfold insertMany
      rw [List.foldl_cons, List.foldl_cons, insert_cons_of_ne (hmore first.1 (by simp))]
      exact hrest _

end Bag

namespace Resource

variable {r : Resource}

/-- The attributes of a resource under the names of their columns. -/
def columns (r : Resource) : List (String × Value) :=
  ((r.attributes.map (·.entries)).getD []).map fun (name, value) =>
    (StorageName.column name, value)

/-- What is asked of the names of attributes for a row to be read back: they are in ASCII,
and none of them takes the column of the identifier. -/
def NamesStorable (r : Resource) : Prop :=
  ∀ attributes ∈ r.attributes, ∀ name ∈ attributes.names,
    (∀ c ∈ name.toList, Unicode.isAscii c = true) ∧ StorageName.column name ≠ "id"

/-- Where no other column is called like that of the identifier, it comes first. -/
theorem row_eq_cons (hr : ∀ column ∈ r.columns.map (·.1), column ≠ "id") (id : String) :
    r.row id = ⟨("id", .text id) :: (Bag.ofList r.columns).entries⟩ :=
  Bag.insertMany_cons_of_forall_ne hr []

/-- The columns of a resource with storable names keep their names as columns. -/
theorem column_eq_self (hr : r.NamesStorable) {column : String}
    (h : column ∈ r.columns.map (·.1)) : StorageName.column column = column ∧ column ≠ "id" := by
  obtain ⟨typeName, id, attributes⟩ := r
  cases attributes with
  | none => cases h
  | some attributes =>
      obtain ⟨pair, hpair, rfl⟩ := List.mem_map.mp h
      obtain ⟨entry, hentry, rfl⟩ := List.mem_map.mp hpair
      obtain ⟨hascii, hid⟩ := hr attributes rfl entry.1 (List.mem_map_of_mem hentry)
      exact ⟨StorageName.column_column hascii, hid⟩

end Resource

namespace Entity

/-- The entity of a row that begins with its identifier. -/
theorem ofRow_cons (typeName id : String) (entries : List (String × Value)) :
    ofRow typeName ⟨("id", .text id) :: entries⟩ =
      { typeName, id := some id, attributes := ⟨entries⟩ } := by
  simp [ofRow, Bag.get?_cons, idOfValue?, Bag.erase]

/-- An entity whose attributes are columns has them as the columns of its row. -/
theorem row_toResource {e : Entity} (hunique : e.attributes.Unique)
    (hcolumns : ∀ name ∈ e.attributes.names, StorageName.column name = name ∧ name ≠ "id")
    (id : String) :
    e.toResource.row id = ⟨("id", .text id) :: e.attributes.entries⟩ := by
  have hentries : ∀ entry ∈ e.attributes.entries,
      (StorageName.column entry.1, entry.2) = entry := by
    intro entry hentry
    rw [(hcolumns entry.1 (List.mem_map_of_mem hentry)).1]
  have hself : e.toResource.columns = e.attributes.entries :=
    (List.map_congr_left hentries).trans (List.map_id' _)
  rw [Resource.row_eq_cons, hself, Bag.ofList_entries hunique]
  intro column hcolumn
  rw [hself] at hcolumn
  exact (hcolumns column hcolumn).2

end Entity

theorem Request.statement_insert {r : Resource} {id : String} (hid : r.id = some id)
    (hne : id ≠ "") (settings : Settings) :
    Request.insert.statement settings r = .ok (.insert r.table (r.row id)) := by
  rw [Request.statement, Resource.requireId_eq_ok hid hne]
  rfl

/-- The row that an insertion writes, read back as an entity. -/
structure RowReadsBack (settings : Settings) (r : Resource) (compiled : Compiled)
    (row : Attributes) : Prop where
  statement : Request.insert.statement settings r = .ok (.insert r.table row)
  lexed : Sql.lex? compiled.sql.toList = some (Statement.insert r.table row).tokens
  /-- The columns of the row keep their names as columns. -/
  stable : ∀ name ∈ row.names, StorageName.column name = name
  /-- The entity has the identifier, and the other columns in their order. -/
  entity : ∃ id columns, r.id = some id ∧ row.entries = ("id", .text id) :: columns ∧
    Entity.ofRow r.typeName row =
      { typeName := r.typeName, id := some id, attributes := ⟨columns⟩ }
  /-- The entity is inserted by the same text. -/
  again : compile settings (Entity.ofRow r.typeName row).toResource .insert = .ok compiled

namespace Resource

variable {r : Resource}

theorem column_eq_self_of_mem_columns (hr : r.NamesStorable) {name : String}
    (h : name ∈ (Bag.ofList r.columns).names) :
    StorageName.column name = name ∧ name ≠ "id" := by
  rcases Bag.mem_names_insertMany h with h | h
  · cases h
  · exact column_eq_self hr h

theorem row_eq_cons_of_storable (hr : r.NamesStorable) (id : String) :
    r.row id = ⟨("id", .text id) :: (Bag.ofList r.columns).entries⟩ :=
  row_eq_cons (fun _ hmem => (column_eq_self hr hmem).2) id

/-- The columns of the row of a resource with storable names keep their names as columns. -/
theorem column_eq_self_of_mem_row (hr : r.NamesStorable) {id name : String}
    (h : name ∈ (r.row id).names) : StorageName.column name = name := by
  rw [row_eq_cons_of_storable hr] at h
  rcases List.mem_cons.mp h with rfl | h
  · have hid : StorageName.column "id" = "id" := by decide +kernel
    exact hid
  · exact (column_eq_self_of_mem_columns hr h).1

/-- The entity of the row of a resource has all columns but that of the identifier. -/
theorem ofRow_row (hr : r.NamesStorable) (id : String) :
    Entity.ofRow r.typeName (r.row id) =
      { typeName := r.typeName, id := some id, attributes := ⟨(Bag.ofList r.columns).entries⟩ } := by
  rw [row_eq_cons_of_storable hr]
  exact Entity.ofRow_cons r.typeName id _

/-- The row of this entity is the row that it is made from. -/
theorem row_ofRow (hr : r.NamesStorable) (id : String) :
    (Entity.ofRow r.typeName (r.row id)).toResource.row id = r.row id := by
  rw [ofRow_row hr, row_eq_cons_of_storable hr]
  exact Entity.row_toResource (Bag.unique_ofList r.columns)
    (fun _ hname => column_eq_self_of_mem_columns hr hname) id

end Resource

/-- The entity that is read from the row of an insertion has the identifier and the other
columns of the row, in their order, and is inserted by the same statement. -/
theorem compile_insert_ofRow {settings : Settings} {r : Resource} {compiled : Compiled}
    (hr : r.NamesStorable) (h : compile settings r .insert = .ok compiled) :
    ∃ row, RowReadsBack settings r compiled row := by
  obtain ⟨statement, hstatement, hwritten⟩ := Failure.exists_of_bind_eq_ok h
  have hplain := Request.unqualified_of_statement hstatement
  obtain ⟨id, hrequire, hrow⟩ := Failure.exists_of_bind_eq_ok hstatement
  cases hrow
  obtain ⟨text, htext, hlog⟩ := Failure.exists_of_bind_eq_ok hwritten
  cases hlog
  obtain ⟨hid, hne⟩ := Resource.of_requireId_eq_ok hrequire
  have hentity := Resource.ofRow_row hr id
  have hsame : Request.insert.statement settings (Entity.ofRow r.typeName (r.row id)).toResource =
      Request.insert.statement settings r := by
    rw [Request.statement_insert (by rw [hentity]; rfl) hne, Resource.row_ofRow hr, hstatement]
    rfl
  exact ⟨r.row id, hstatement, Statement.reads_sql hplain htext,
    fun _ hname => Resource.column_eq_self_of_mem_row hr hname,
    ⟨id, _, hid, by rw [Resource.row_eq_cons_of_storable hr], hentity⟩,
    by rw [compile_eq_of_statement_eq hsame, h]⟩

/-- A resource with names in mixed case, with signs, and with two for one column. -/
def mixedNames : Resource where
  typeName := "Company"
  id := some "c'1"
  attributes := some
    ⟨[("HTTPServer2", .int 1), ("createdAt", .float ⟨0x3ff8000000000000⟩), ("a b", .bool true),
      ("created-at", .null), ("id_2", .list [.text "x", .float ⟨0x7ff8000000000000⟩]),
      ("", .text "")]⟩

theorem compile_insert_ofRow_mixedNames :
    mixedNames.NamesStorable ∧
    ∃ compiled, compile {} mixedNames .insert = .ok compiled ∧
      ∃ row, RowReadsBack {} mixedNames compiled row := by
  have hnames : mixedNames.NamesStorable := by
    intro attributes hattributes
    cases hattributes
    -- As a Boolean, since the instances that decide the proposition run too deep.
    have hchecked : (["HTTPServer2", "createdAt", "a b", "created-at", "id_2", ""].all fun name =>
        name.toList.all Unicode.isAscii && (StorageName.column name != "id")) = true := by
      decide +kernel
    simp only [List.all_eq_true, Bool.and_eq_true, bne_iff_ne] at hchecked
    exact hchecked
  obtain ⟨compiled, hcompiled⟩ : ∃ compiled, compile {} mixedNames .insert = .ok compiled :=
    ⟨_, rfl⟩
  exact ⟨hnames, compiled, hcompiled, compile_insert_ofRow hnames hcompiled⟩

end ResourceSql
