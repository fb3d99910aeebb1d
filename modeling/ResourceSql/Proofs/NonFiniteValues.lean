import ResourceSql.Proofs.WritingFailures
import ResourceSql.Value.Canonical

/-!
# Numbers that are not finite

A double that is not finite has no literal, and every text that would write it fails.  Within
a list or an object it does not come so far: the literal is the text of the document, and the
document has null in the place of the number.  So the literal of such a list or object is that
of another value.
-/

namespace ResourceSql

open Sql

/-! ## What a literal keeps -/

namespace Value

/-- A value with null for what is not finite has the document of the value. -/
theorem toJson_nulled (v : Value) : v.nulled.toJson = v.toJson := by
  induction v using partsInduction with
  | object members ih =>
      rw [nulled_object, toJson_object, toJson_object, List.map_map]
      congr 2
      apply List.map_congr_left
      intro entry hentry
      exact congrArg (entry.1, ·) (ih entry hentry)
  | list items ih =>
      rw [nulled_list, toJson_list, toJson_list, List.map_map]
      congr 1
      exact List.map_congr_left ih
  | atom v hobject hlist =>
      cases v with
      | object members => exact absurd rfl (hobject members)
      | list items => exact absurd rfl (hlist items)
      | float x => cases hx : x.isFinite <;> simp [nulled, toJson, hx]
      | _ => rfl

theorem map_eq_self_iff {α : Type} {items : List α} {f : α → α} :
    items.map f = items ↔ ∀ a ∈ items, f a = a := by
  simpa using List.map_inj_left (f := f) (g := id) (l := items)

theorem nulled_eq_self_iff (v : Value) : v.nulled = v ↔ v.FloatsFinite := by
  induction v using partsInduction with
  | object members ih =>
      obtain ⟨entries⟩ := members
      rw [nulled_object, floatsFinite_object_iff, Value.object.injEq, Bag.mk.injEq,
        map_eq_self_iff]
      apply forall₂_congr
      intro entry hentry
      rw [← ih entry hentry, Prod.ext_iff]
      simp
  | list items ih =>
      rw [nulled_list, floatsFinite_list_iff, Value.list.injEq, map_eq_self_iff]
      exact forall₂_congr ih
  | atom v hobject hlist =>
      -- The only part of such a value is the value itself.
      have hself : v.FloatsFinite ↔ ∀ x, .float x = v → x.isFinite = true :=
        ⟨fun h x hx => h x (hx ▸ .self v),
          fun h x hx => h x (eq_of_within_atom hobject hlist hx)⟩
      rw [hself]
      cases v with
      | object members => exact absurd rfl (hobject members)
      | list items => exact absurd rfl (hlist items)
      | float x => cases hx : x.isFinite <;> simp [nulled, hx]
      | _ => exact iff_of_true rfl (by simp)

/-- The literal of a value that is no number itself is that of the value with null for what
is not finite in it. -/
theorem sql_nulled {v : Value} (h : ∀ x, v ≠ .float x) : v.nulled.sql = v.sql := by
  have hdocument := toJson_nulled v
  cases v with
  | float x => exact absurd rfl (h x)
  | list items =>
      rw [nulled_list] at hdocument ⊢
      rw [Value.sql, Value.sql, Value.literal, Value.literal, hdocument]
  | object members =>
      rw [nulled_object] at hdocument ⊢
      rw [Value.sql, Value.sql, Value.literal, Value.literal, hdocument]
  | _ => rfl

/-- A literal fails on a number that is not finite, and on nothing else. -/
theorem sql_eq_error_iff {v : Value} :
    (∃ failure, v.sql = .error failure) ↔ ∃ d, v = .float d ∧ d.isFinite = false := by
  constructor
  · rintro ⟨failure, hfailure⟩
    cases v with
    | float x =>
        cases hx : x.isFinite with
        | false => exact ⟨x, rfl, hx⟩
        | true =>
            rw [Value.sql, Value.literal, if_pos hx] at hfailure
            cases hfailure
    | _ => cases hfailure
  · rintro ⟨d, rfl, hd⟩
    exact ⟨.nonFinite d, by rw [Value.sql, Value.literal, if_neg (by simp [hd])]; rfl⟩

theorem floatsFinite_float_iff {x : Binary64} :
    FloatsFinite (.float x) ↔ x.isFinite = true := by
  rw [← nulled_eq_self_iff, nulled]
  cases x.isFinite <;> simp

/-- Failure is the same as a number that is not finite, at whatever depth, for a value without
such a number and for a number, but for no other value. -/
theorem error_iff_not_floatsFinite_iff (v : Value) :
    ((∃ failure, v.sql = .error failure) ↔ ¬ v.FloatsFinite) ↔
      (v.FloatsFinite ∨ ∃ d, v = .float d) := by
  rw [sql_eq_error_iff]
  constructor
  · intro h
    by_cases hv : v.FloatsFinite
    · exact .inl hv
    · obtain ⟨d, hd, -⟩ := h.mpr hv
      exact .inr ⟨d, hd⟩
  · rintro (hv | ⟨d, rfl⟩)
    · refine iff_of_false ?_ (not_not_intro hv)
      rintro ⟨d, rfl, hd⟩
      rw [floatsFinite_float_iff, hd] at hv
      cases hv
    · simp [floatsFinite_float_iff]

/-- A literal is that of the value with null for what is not finite in it. -/
theorem sql_nulled_of_sql_eq_ok {v : Value} {text : String} (h : v.sql = .ok text) :
    v.nulled.sql = .ok text := by
  by_cases hfloat : ∃ d, v = .float d
  · obtain ⟨d, rfl⟩ := hfloat
    cases hd : d.isFinite with
    | true => simpa [nulled, hd] using h
    | false =>
        obtain ⟨failure, hfailure⟩ := sql_eq_error_iff.mpr ⟨d, rfl, hd⟩
        rw [h] at hfailure
        cases hfailure
  · rw [sql_nulled fun d hd => hfloat ⟨d, hd⟩, h]

end Value

/-- Where a value is written by itself, as a literal, in a list of them, in an assignment, in a
condition or in a statement, the text fails on the first number that is not finite.  A list or
an object with such a number in it does not fail, and its literal is that of another value. -/
theorem nonFinite_values_fail (v : Value) :
    (((∃ failure, v.sql = .error failure) ↔ ¬ v.FloatsFinite) ↔
      (v.FloatsFinite ∨ ∃ d, v = .float d)) ∧
    (∀ text, v.sql = .ok text → v.nulled.sql = .ok text) ∧ (v.nulled = v ↔ v.FloatsFinite) ∧
    (∀ values, FailsOnFirst (Sql.literals values) values) ∧
    (∀ attributes : Attributes, FailsOnFirst (Sql.assignments attributes) attributes.values) ∧
    (∀ c : Condition, FailsOnFirst c.sql c.values) ∧
    ∀ (settings : Settings) (r : Resource) (request : Request) (statement : Statement),
      request.statement settings r = .ok statement →
        FailsOnFirst (compile settings r request) statement.values :=
  ⟨v.error_iff_not_floatsFinite_iff, fun _ => Value.sql_nulled_of_sql_eq_ok, v.nulled_eq_self_iff,
    Sql.failsOnFirst_literals, Sql.failsOnFirst_assignments, Condition.failsOnFirst_sql,
    fun _ _ _ _ => failsOnFirst_compile⟩

def nan : Binary64 := ⟨0x7ff8000000000000⟩

/-- A resource with a list of a NaN before a NaN. -/
def unmeasured : Resource where
  typeName := "test"
  id := some "x"
  attributes := some ⟨[("series", .list [.float nan]), ("mean", .float nan)]⟩

theorem nonFinite_values_fail_unmeasured :
    (∃ failure, (Value.float nan).sql = .error failure) ∧
      (∃ statement, Request.insert.statement {} unmeasured = .ok statement) ∧
      compile {} unmeasured .insert = .error (.nonFinite nan) := by
  obtain ⟨hfloat, -, -, -, -, -, hcompile⟩ := nonFinite_values_fail (.float nan)
  have hnan : ¬ (Value.float nan).FloatsFinite := by
    rw [Value.floatsFinite_float_iff]
    decide
  obtain ⟨statement, hstatement⟩ : ∃ statement,
      Request.insert.statement {} unmeasured = .ok statement := ⟨_, rfl⟩
  have hfirst : statement.values.findSome? Value.nonFinite? = some nan := by
    cases hstatement
    decide +kernel
  have hfails := hcompile {} unmeasured .insert statement hstatement
  rw [FailsOnFirst, hfirst] at hfails
  exact ⟨(hfloat.mpr (.inr ⟨nan, rfl⟩)).mpr hnan, ⟨statement, hstatement⟩, hfails⟩

/-- A list of a NaN is written as a list of null, and the NaN goes unnoticed. -/
theorem sql_listOfNaN :
    ¬ (Value.list [.float nan]).FloatsFinite ∧
      (Value.list [.float nan]).sql = .ok "'[null]'" ∧
      (Value.list [.null]).sql = .ok "'[null]'" := by
  have htext : Literal.quotedText (Value.list [.null]).toJson.text = "'[null]'" := by
    decide +kernel
  have hnull : (Value.list [.null]).sql = .ok "'[null]'" := congrArg Except.ok htext
  have hlist : (Value.list [.float nan]).sql = .ok "'[null]'" := by
    rw [← Value.sql_nulled (by simp)]
    exact hnull
  refine ⟨fun h => ?_, hlist, hnull⟩
  have hnan := h nan (.item (List.mem_singleton.mpr rfl) (.self _))
  exact absurd hnan (by decide)

end ResourceSql
