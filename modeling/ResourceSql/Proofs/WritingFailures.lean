import Mathlib.Tactic.Common
import ResourceSql.Compilation
import ResourceSql.Sql.Statement

/-!
# Failures of writing

The text of a statement fails for want of a literal only, that is on a double that is not
finite, and of several such doubles on the first.  Whatever a request can be refused for has
been decided when there is a statement.
-/

namespace ResourceSql

open Sql

/-- A double that is not finite is the only cause of failure. -/
def FailsOnFloats {α : Type} (x : Except Failure α) : Prop :=
  ∀ cause, x = .error cause → ∃ d, cause = .nonFinite d

/-! ## Texts of several values -/

namespace Sql.FailsOnFirst

variable {α β : Type}

theorem ok (a : α) : FailsOnFirst (.ok a) [] := ⟨a, rfl⟩

theorem bind {x : Except Failure α} {values more : List Value} {f : α → Except Failure β}
    (hx : FailsOnFirst x values) (hf : ∀ a, FailsOnFirst (f a) more) :
    FailsOnFirst (x >>= f) (values ++ more) := by
  unfold FailsOnFirst at hx ⊢
  rw [List.findSome?_append]
  cases hvalues : values.findSome? Value.nonFinite? with
  | some d =>
      rw [hvalues] at hx
      rw [hx]
      rfl
  | none =>
      rw [hvalues] at hx
      obtain ⟨a, rfl⟩ := hx
      exact hf a

theorem map {x : Except Failure α} {values : List Value} (hx : FailsOnFirst x values)
    (f : α → β) : FailsOnFirst (x >>= fun a => .ok (f a)) values := by
  have h := hx.bind fun a => ok (f a)
  rwa [List.append_nil] at h

theorem mapM {write : β → Except Failure α} {values : β → List Value}
    (hwrite : ∀ b, FailsOnFirst (write b) (values b)) (items : List β) :
    FailsOnFirst (items.mapM write) (items.flatMap values) := by
  induction items with
  | nil => exact ok []
  | cons b items ih =>
      rw [List.mapM_cons, List.flatMap_cons]
      exact (hwrite b).bind fun a => ih.map fun as => a :: as

theorem exists_ok {x : Except Failure α} {values : List Value} (hx : FailsOnFirst x values)
    (h : ∀ v ∈ values, v.nonFinite? = none) : ∃ a, x = .ok a := by
  unfold FailsOnFirst at hx
  rwa [List.findSome?_eq_none_iff.mpr h] at hx

theorem failsOnFloats {x : Except Failure α} {values : List Value} (hx : FailsOnFirst x values) :
    FailsOnFloats x := by
  intro cause hcause
  unfold FailsOnFirst at hx
  cases hvalues : values.findSome? Value.nonFinite? with
  | some d =>
      rw [hvalues] at hx
      exact ⟨d, Except.error.inj (hcause.symm.trans hx)⟩
  | none =>
      rw [hvalues] at hx
      obtain ⟨a, rfl⟩ := hx
      cases hcause

end Sql.FailsOnFirst

/-! ## Texts of a statement -/

theorem Value.nonFinite?_eq_none {v : Value} (h : ∀ x, v = .float x → x.isFinite = true) :
    v.nonFinite? = none := by
  cases v with
  | float x => exact if_pos (h x rfl)
  | _ => rfl

theorem Value.failsOnFirst_sql (v : Value) : FailsOnFirst v.sql [v] := by
  cases v with
  | float x =>
      cases hx : x.isFinite <;>
        simp [FailsOnFirst, Value.nonFinite?, Value.sql, Value.literal, hx]
  | _ => exact ⟨_, rfl⟩

theorem Value.failsOnFirst_sqlInDocument (v : Value) : FailsOnFirst v.sqlInDocument [v] := by
  cases v with
  | bool b => exact ⟨_, rfl⟩
  | list items => exact ⟨_, rfl⟩
  | object members => exact ⟨_, rfl⟩
  | _ => exact Value.failsOnFirst_sql _

theorem Sql.failsOnFirst_literals (values : List Value) :
    FailsOnFirst (Sql.literals values) values := by
  have htexts : FailsOnFirst (values.mapM Value.sql) (values.flatMap ([·])) :=
    .mapM Value.failsOnFirst_sql values
  rw [List.flatMap_singleton'] at htexts
  exact htexts.map _

theorem Sql.failsOnFirst_assignment (name : String) (value : Value) :
    FailsOnFirst (Sql.assignment name value) [value] :=
  value.failsOnFirst_sql.map _

theorem Sql.failsOnFirst_assignments (attributes : Attributes) :
    FailsOnFirst (Sql.assignments attributes) attributes.values := by
  have htexts : FailsOnFirst
      (attributes.entries.mapM fun entry => Sql.assignment entry.1 entry.2)
      (attributes.entries.flatMap fun entry : String × Value => [entry.2]) :=
    .mapM (fun entry : String × Value => Sql.failsOnFirst_assignment entry.1 entry.2) _
  rw [← List.map_eq_flatMap] at htexts
  exact htexts.map _

theorem Assignment.failsOnFirst_sql (assignment : Assignment) :
    FailsOnFirst assignment.sql assignment.values := by
  cases assignment with
  | whole column value => exact Sql.failsOnFirst_assignment column value
  | merge column changes =>
      have hplaced : FailsOnFirst (changes.mapM fun place => Sql.placed place.1 place.2)
          (changes.flatMap fun place : List String × Value => [place.2]) :=
        .mapM (fun place => place.2.failsOnFirst_sqlInDocument.map _) changes
      rw [← List.map_eq_flatMap] at hplaced
      exact hplaced.map _

theorem Condition.failsOnFirst_sql (c : Condition) : FailsOnFirst c.sql c.values := by
  induction c with
  | compare key comparison value negated => exact value.failsOnFirst_sql.map _
  | join connective left right negated ihleft ihright =>
      exact ihleft.bind fun _ => ihright.map _

theorem Page.failsOnFirst_filterClause (page : Page) :
    FailsOnFirst page.filterClause page.values := by
  unfold Page.filterClause Page.values
  cases page.filter with
  | none => exact .ok _
  | some filter => exact filter.failsOnFirst_sql.map _

theorem Statement.failsOnFirst_sql (statement : Statement) :
    FailsOnFirst statement.sql statement.values := by
  cases statement with
  | insert table row => exact (Sql.failsOnFirst_literals row.values).map _
  | select table id => exact ⟨_, rfl⟩
  | search table filter => exact filter.failsOnFirst_sql.map _
  | list table page => exact page.failsOnFirst_filterClause.map _
  | delete table id => exact ⟨_, rfl⟩
  | update table assignments filter =>
      exact (FailsOnFirst.mapM Assignment.failsOnFirst_sql assignments).bind fun _ =>
        filter.failsOnFirst_sql.map _

theorem failsOnFirst_compile {settings : Settings} {r : Resource} {request : Request}
    {statement : Statement} (h : request.statement settings r = .ok statement) :
    FailsOnFirst (compile settings r request) statement.values := by
  unfold compile
  rw [h]
  exact statement.failsOnFirst_sql.map _

/-- A request is refused before its statement is written, or not at all. -/
theorem compile_eq_refused_iff {settings : Settings} {r : Resource} {request : Request}
    {cause : Refusal} :
    compile settings r request = .error (.refused cause) ↔
      request.statement settings r = .error (.refused cause) := by
  constructor
  · intro h
    cases hstatement : request.statement settings r with
    | error found =>
        rw [compile, hstatement] at h
        cases h
        rfl
    | ok statement =>
        obtain ⟨d, hd⟩ := (failsOnFirst_compile hstatement).failsOnFloats _ h
        cases hd
  · intro h
    rw [compile, h]
    rfl

end ResourceSql
