import ResourceSql.Compilation
import ResourceSql.Proofs.Bag
import ResourceSql.Proofs.Brackets

/-!
# The token structure of compiled statements

Whatever a request carries, the text of its statement is read as the tokens of the
statement's form.  Every name, number and text that a caller gives is a token of its
own at the place that the form has for it; none of them opens or closes a
parenthesis, and none of them ends the statement.
-/

namespace ResourceSql

open Sql

theorem StorageName.dot_notMem_table (typeName : String) :
    '.' ∉ (StorageName.table typeName).toList :=
  SnakeCase.dot_notMem_ofName _

theorem StorageName.dot_notMem_column (name : String) :
    '.' ∉ (StorageName.column name).toList :=
  SnakeCase.dot_notMem_ofName name

theorem Resource.dot_notMem_row (r : Resource) (id : String) :
    ∀ name ∈ (r.row id).names, '.' ∉ name.toList := by
  intro name hname
  rcases Bag.mem_names_insertMany hname with hname | hname
  · have hid : name = "id" := by
      rcases Bag.mem_names_insertMany hname with h | h
      · cases h
      · simpa using h
    rw [hid]
    decide
  · obtain ⟨⟨column, value⟩, hmem, rfl⟩ := List.mem_map.mp hname
    obtain ⟨entry, -, hentry⟩ := List.mem_map.mp hmem
    cases hentry
    exact StorageName.dot_notMem_column entry.1

namespace Assignment

theorem column_of_ofChange? {present : Option Value} {name : String} {change : Value}
    {assignment : Assignment} (h : ofChange? present name change = some assignment) :
    assignment.column = StorageName.column name := by
  unfold ofChange? at h
  split at h
  · dsimp only at h
    split_ifs at h
    cases h
    rfl
  · cases h
    rfl

theorem dot_notMem_column {present : Option Attributes} {changes : Attributes}
    {assignment : Assignment} (h : assignment ∈ ofChanges present changes) :
    '.' ∉ assignment.column.toList := by
  obtain ⟨⟨name, change⟩, -, hchange⟩ := List.mem_filterMap.mp h
  rw [column_of_ofChange? hchange]
  exact StorageName.dot_notMem_column name

end Assignment

theorem SortKey.parse_eq_asked (s : String) : SortKey.parse s = SortKey.asked s := by
  unfold SortKey.parse SortKey.asked
  split
  · rename_i c rest heq
    simp [heq]
  · rename_i hshort
    rw [if_neg]
    rintro ⟨hhead, hlength⟩
    obtain ⟨rest, hrest⟩ := List.head?_eq_some_iff.mp hhead
    cases rest with
    | nil => simp [hrest] at hlength
    | cons c rest => exact hshort c rest hrest

theorem Resource.of_requireId_eq_ok {r : Resource} {otherwise : Failure} {id : String}
    (h : r.requireId otherwise = .ok id) : r.id = some id ∧ id ≠ "" := by
  unfold Resource.requireId at h
  split at h
  · rename_i found hfound
    cases h
    obtain ⟨hid, hne⟩ := Option.filter_eq_some_iff.mp hfound
    refine ⟨hid, ?_⟩
    rintro rfl
    simp at hne
  · cases h

theorem Resource.requireId_eq_ok {r : Resource} {id : String} (hid : r.id = some id)
    (hne : id ≠ "") (otherwise : Failure) : r.requireId otherwise = .ok id := by
  have husable : r.usableId? = some id := by simp [Resource.usableId?, hid, hne]
  rw [Resource.requireId, husable]

theorem Listing.of_toPage_eq_ok {listing : Listing} {settings : Settings} {page : Page}
    (h : listing.toPage settings = .ok page) :
    page =
      { filter := listing.filter
        order := listing.sort.map SortKey.asked
        limit := (settings.pageSize listing.size).rows.toNat
        offset := listing.page.toNat * (settings.pageSize listing.size).rows.toNat } := by
  unfold Listing.toPage at h
  dsimp only at h
  split_ifs at h
  cases h
  simp [SortKey.parse_eq_asked]

namespace Request

variable {settings : Settings} {r : Resource} {request : Request} {statement : Statement}

theorem unqualified_of_statement (h : request.statement settings r = .ok statement) :
    statement.Unqualified := by
  have htable := StorageName.dot_notMem_table r.typeName
  cases request with
  | insert =>
      obtain ⟨id, -, h⟩ := Failure.exists_of_bind_eq_ok h
      cases h
      exact ⟨htable, r.dot_notMem_row id⟩
  | select =>
      obtain ⟨id, -, h⟩ := Failure.exists_of_bind_eq_ok h
      cases h
      exact htable
  | search filter =>
      cases h
      exact htable
  | list listing =>
      obtain ⟨id, -, h⟩ := Failure.exists_of_bind_eq_ok h
      obtain ⟨page, -, h⟩ := Failure.exists_of_bind_eq_ok h
      cases h
      exact htable
  | delete =>
      obtain ⟨id, -, h⟩ := Failure.exists_of_bind_eq_ok h
      cases h
      exact htable
  | update revision filter =>
      obtain ⟨changes, -, h⟩ := Failure.exists_of_bind_eq_ok h
      dsimp only at h
      split_ifs at h
      cases h
      exact ⟨htable, fun assignment hmem => Assignment.dot_notMem_column hmem⟩

end Request

theorem lex?_of_statement {settings : Settings} {r : Resource} {request : Request}
    {statement : Statement} {compiled : Compiled}
    (hstatement : request.statement settings r = .ok statement)
    (h : compile settings r request = .ok compiled) :
    lex? compiled.sql.toList = some statement.tokens := by
  obtain ⟨found, hfound, hwritten⟩ := Failure.exists_of_bind_eq_ok h
  rw [hstatement] at hfound
  cases hfound
  obtain ⟨text, htext, hcompiled⟩ := Failure.exists_of_bind_eq_ok hwritten
  cases hcompiled
  exact Statement.reads_sql (Request.unqualified_of_statement hstatement) htext

end ResourceSql
