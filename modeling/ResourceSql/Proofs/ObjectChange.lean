import ResourceSql.Proofs.MergeReading
import ResourceSql.Proofs.Merging
import ResourceSql.Proofs.TokenStructure

/-!
# Changes of objects in an update

An object that is to change an attribute which holds an object is written as a merge.
Its text is read back as places, and to set these is to lay the change over the object.
-/

namespace ResourceSql

open Sql

/-! ## Texts of merges -/

/-- A value goes into a document unless it is a double that is not finite. -/
theorem Value.exists_sqlInDocument_iff (v : Value) :
    (∃ text, v.sqlInDocument = .ok text) ↔ ∀ x, v = .float x → x.isFinite = true := by
  cases v with
  | float x =>
      cases hx : x.isFinite <;>
        simp [Value.sqlInDocument, Value.sql, Value.literal, hx, Bind.bind, Except.bind,
          Pure.pure, Except.pure]
  | _ =>
      constructor
      · intro _ x hx
        cases hx
      · intro _
        exact ⟨_, rfl⟩

namespace Assignment

theorem exists_mapM_placed_iff (places : List (JsonPath × Value)) :
    (∃ texts, places.mapM (fun (path, value) => Sql.placed path value) = .ok texts) ↔
      ∀ place ∈ places, ∀ x, place.2 = .float x → x.isFinite = true := by
  induction places with
  | nil => exact ⟨fun _ _ hmem => absurd hmem List.not_mem_nil, fun _ => ⟨[], rfl⟩⟩
  | cons place places ih =>
      obtain ⟨path, value⟩ := place
      rw [List.forall_mem_cons, ← ih, ← value.exists_sqlInDocument_iff]
      simp only [List.mapM_cons]
      constructor
      · rintro ⟨texts, h⟩
        obtain ⟨first, hfirst, h⟩ := Failure.exists_of_bind_eq_ok h
        obtain ⟨rest, hrest, -⟩ := Failure.exists_of_bind_eq_ok h
        obtain ⟨text, htext, -⟩ := Failure.exists_of_bind_eq_ok hfirst
        exact ⟨⟨text, htext⟩, rest, hrest⟩
      · rintro ⟨⟨text, htext⟩, rest, hrest⟩
        rw [hrest]
        simp only [Sql.placed, htext]
        exact ⟨_, rfl⟩

/-- A merge has a text unless it sets a double that is not finite. -/
theorem exists_sql_merge_iff (column : String) (places : List (JsonPath × Value)) :
    (∃ text, (merge column places).sql = .ok text) ↔
      ∀ place ∈ places, ∀ x, place.2 = .float x → x.isFinite = true := by
  rw [← exists_mapM_placed_iff]
  constructor
  · rintro ⟨text, h⟩
    obtain ⟨texts, htexts, -⟩ := Failure.exists_of_bind_eq_ok h
    exact ⟨texts, htexts⟩
  · rintro ⟨texts, htexts⟩
    simp only [sql, htexts]
    exact ⟨_, rfl⟩

end Assignment

/-! ## What a merge does -/

/-- Setting places one after the other carries out a change of an object and nothing
else. -/
structure CarriesOut (present changes : Attributes) (places : List (JsonPath × Value)) :
    Prop where
  /-- No place is set twice. -/
  distinct : (places.map (·.1)).Nodup
  /-- No place is inside another. -/
  apart : ∀ p ∈ places, ∀ q ∈ places, p.1 <+: q.1 → p.1 = q.1
  /-- Every place is a member of an object that is present. -/
  parent : ∀ place ∈ places,
    place.1 ≠ [] ∧ ∃ inner, present.objectAt? place.1.dropLast = some inner
  /-- The change is then laid over what was present. -/
  result : present.setPlaces places = present.overlay changes

theorem carriesOut_placesInBag {changes : Attributes}
    (h : Value.NamesUnique (.object changes)) (present : Attributes) :
    CarriesOut present changes (Value.placesInBag [] changes present) := by
  have hapart := Value.pairwise_apart_placesInBag h present
  refine ⟨?_, ?_, ?_, Value.setPlaces_placesInBag h present⟩
  · rw [List.Nodup, List.pairwise_map]
    exact hapart.imp JsonPath.Apart.ne
  · have hforward : (Value.placesInBag [] changes present).Pairwise
        fun p q => p.1 <+: q.1 → p.1 = q.1 :=
      hapart.imp fun hpq hprefix => absurd hprefix hpq.1
    have hbackward : (Value.placesInBag [] changes present).Pairwise
        fun p q => q.1 <+: p.1 → q.1 = p.1 :=
      hapart.imp fun hpq hprefix => absurd hprefix hpq.2
    intro p hp q hq
    exact hforward.forall_of_forall_of_flip (fun _ _ _ => rfl) hbackward hp hq
  · intro place hmem
    exact ⟨Value.ne_nil_of_mem_placesInBag hmem, Value.objectAt?_of_mem_placesInBag hmem⟩

/-- What an update writes for a change of an object under a name. -/
structure MergeWritten (name : String) (present changes : Attributes)
    (written : Option Assignment) (places : List (JsonPath × Value)) : Prop where
  /-- The places carry out the change. -/
  carriesOut : CarriesOut present changes places
  /-- Nothing is written if and only if there is no place. -/
  omitted : written = none ↔ places = []
  /-- If there is no place then the change is none. -/
  unchanged : places = [] → present.overlay changes = present
  /-- What is written has a text unless a double that is not finite would be set. -/
  emitted : ∀ assignment ∈ written, (∃ text, assignment.sql = .ok text) ↔
    ∀ place ∈ places, ∀ x, place.2 = .float x → x.isFinite = true
  /-- The text is read back as the places with the arguments of their values. -/
  readBack : ∀ assignment ∈ written, ∀ text, assignment.sql = .ok text →
    ∃ tokens, lex? text.toList = some tokens ∧
      merge? tokens =
        some (StorageName.column name, places.map fun (path, value) => (path, value.argument))

theorem mergeWritten_ofChange? {chg : Attributes} (hchg : Value.NamesUnique (.object chg))
    (name : String) (cur : Attributes) :
    MergeWritten name cur chg (Assignment.ofChange? (some (.object cur)) name (.object chg))
      (Value.placesInBag [] chg cur) := by
  have hcarries := carriesOut_placesInBag hchg cur
  have hwritten : Assignment.ofChange? (some (.object cur)) name (.object chg) =
      if (Value.placesInBag [] chg cur).isEmpty then none
      else some (.merge (StorageName.column name) (Value.placesInBag [] chg cur)) := rfl
  have hmerge : ∀ assignment ∈ Assignment.ofChange? (some (.object cur)) name (.object chg),
      assignment = .merge (StorageName.column name) (Value.placesInBag [] chg cur) := by
    intro assignment hassignment
    rw [hwritten] at hassignment
    split_ifs at hassignment
    · cases hassignment
    · cases hassignment
      rfl
  refine ⟨hcarries, ?_, ?_, ?_, ?_⟩
  · rw [hwritten]
    split_ifs with hempty <;> simpa using hempty
  · intro hempty
    have hresult := hcarries.result
    rw [hempty] at hresult
    exact hresult.symm
  · intro assignment hassignment
    rw [hmerge assignment hassignment]
    exact Assignment.exists_sql_merge_iff _ _
  · intro assignment hassignment text htext
    rw [hmerge assignment hassignment] at htext
    have hreads : Reads text
        (Assignment.merge (StorageName.column name) (Value.placesInBag [] chg cur)).tokens :=
      Assignment.reads_sql (StorageName.dot_notMem_column name) htext
    exact ⟨_, hreads, merge?_tokens _ _⟩

/-- A change of an object adds at most one assignment to an update.  Its text is read
back as places that carry out the change, each with the argument of its value, and it
is left out exactly if there is no place. -/
theorem merges_object_change {present cur chg : Attributes} {name : String}
    (hcur : present.get? name = some (.object cur)) (hchg : Value.NamesUnique (.object chg))
    (front back : List (String × Value)) :
    ∃ written places,
      Assignment.ofChanges (some present) ⟨front ++ (name, .object chg) :: back⟩ =
        Assignment.ofChanges (some present) ⟨front⟩ ++ written.toList ++
          Assignment.ofChanges (some present) ⟨back⟩ ∧
      MergeWritten name cur chg written places := by
  refine ⟨_, _, ?_, mergeWritten_ofChange? hchg name cur⟩
  have hbind : (some present).bind (·.get? name) = some (.object cur) := hcur
  unfold Assignment.ofChanges
  dsimp only
  rw [List.filterMap_append, List.filterMap_cons]
  simp only [hbind]
  cases Assignment.ofChange? (some (.object cur)) name (.object chg) <;> simp

/-- A document with members that need quotes. -/
def quotedDocument : Attributes :=
  ⟨[("a.b", .object ⟨[("\x22", .int 1), ("\\", .text "kept")]⟩), ("9", .null)]⟩

/-- A change of the document at three of its members, one of them new. -/
def quotedChange : Attributes :=
  ⟨[("a.b", .object ⟨[("\x22", .int 2), ("", .object ⟨[]⟩)]⟩), ("9", .object ⟨[]⟩)]⟩

theorem merges_quotedChange :
    ∃ written places,
      Assignment.ofChanges (some ⟨[("doc", .object quotedDocument)]⟩)
          ⟨[("n", .null)] ++ ("doc", .object quotedChange) :: []⟩ =
        Assignment.ofChanges (some ⟨[("doc", .object quotedDocument)]⟩) ⟨[("n", .null)]⟩ ++
          written.toList ++
          Assignment.ofChanges (some ⟨[("doc", .object quotedDocument)]⟩) ⟨[]⟩ ∧
      MergeWritten "doc" quotedDocument quotedChange written places := by
  have hchange : Value.NamesUnique (.object quotedChange) := by
    simp [quotedChange, Value.namesUnique_object_iff, Bag.Unique, Bag.names,
      Value.namesUnique_atom]
  exact merges_object_change rfl hchange [("n", .null)] []

end ResourceSql
