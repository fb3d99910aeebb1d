import ResourceSql.Proofs.ConditionMeaning
import ResourceSql.Proofs.MemberOrder
import ResourceSql.Proofs.ObjectChange
import ResourceSql.Proofs.WritingFailures
import ResourceSql.Resource.Entity
import ResourceSql.Sql.SetClause

/-!
# Effective changes of an update

An update is refused if and only if each of its changes is void.  Otherwise what it sets is
the text of its effective changes, in their order, wherever the void ones stand among them.
-/

namespace ResourceSql

/-! ## Void changes -/

namespace Value

variable {changes present : Bag Value}

theorem isVoidEntries_iff {entries : List (String × Value)} :
    isVoidEntries entries present = true ↔
      ∀ entry ∈ entries, entry.2.isVoid (present.get? entry.1) = true := by
  induction entries with
  | nil => simp [isVoidEntries]
  | cons entry rest ih =>
      obtain ⟨name, change⟩ := entry
      rw [isVoidEntries, Bool.and_eq_true, ih, List.forall_mem_cons]

theorem isVoid_object_iff :
    isVoid (.object changes) (some (.object present)) = true ↔
      ∀ entry ∈ changes.entries, entry.2.isVoid (present.get? entry.1) = true := by
  obtain ⟨entries⟩ := changes
  rw [isVoid, isVoidBag, isVoidEntries_iff]

theorem placesInBag_eq_flatMap (changes present : Bag Value) :
    placesInBag [] changes present =
      changes.entries.flatMap fun entry => entry.2.places [entry.1] (present.get? entry.1) := by
  obtain ⟨entries⟩ := changes
  rw [placesInBag]
  induction entries with
  | nil => rfl
  | cons entry rest ih => rw [placesOfEntries, ih, List.flatMap_cons, List.nil_append]

/-- A change is void if and only if it has no place to set. -/
theorem placesInBag_eq_nil_iff :
    placesInBag [] changes present = [] ↔
      isVoid (.object changes) (some (.object present)) = true := by
  induction changes using bagInduction generalizing present with
  | step changes ih =>
      rw [isVoid_object_iff, placesInBag_eq_flatMap, List.flatMap_eq_nil_iff]
      apply forall₂_congr
      intro entry hmem
      rcases entry.2.meets_object_or (present.get? entry.1) with
        ⟨members, inner, hmembers, hinner⟩ | hleaf
      · rw [hmembers, places_of_object hinner, List.map_eq_nil_iff, hinner]
        exact ih entry hmem members hmembers
      · rw [places.eq_2 _ _ _ hleaf, isVoid.eq_2 _ _ hleaf]
        simp

theorem within_of_mem_placesInBag {place : JsonPath × Value}
    (h : place ∈ placesInBag [] changes present) : Within place.2 (.object changes) := by
  induction changes using bagInduction generalizing present place with
  | step changes ih =>
      rw [placesInBag_eq_flatMap] at h
      obtain ⟨entry, hmem, hplace⟩ := List.mem_flatMap.mp h
      apply Within.member hmem
      rcases entry.2.meets_object_or (present.get? entry.1) with
        ⟨members, inner, hmembers, hinner⟩ | hleaf
      · rw [hmembers] at hplace ⊢
        rw [places_of_object hinner] at hplace
        obtain ⟨below, hbelow, rfl⟩ := List.mem_map.mp hplace
        have hpart : Within below.2 (.object members) := ih entry hmem members hmembers hbelow
        exact hpart
      · rw [places.eq_2 _ _ _ hleaf] at hplace
        rw [List.mem_singleton.mp hplace]
        exact .self _

/-! ## Values that ask for nothing new -/

theorem settled_object_iff {after before : Bag Value} :
    Settled (.object after) (some (.object before)) ↔
      (Value.object before).equal (.object after) = true ∨
        ∀ entry ∈ after.entries, Settled entry.2 (before.get? entry.1) := by
  constructor
  · intro h
    cases h with
    | equal hequal => exact Or.inl hequal
    | object hmembers => exact Or.inr hmembers
  · rintro (hequal | hmembers)
    · exact .equal hequal
    · exact .object hmembers

/-- Unless an object meets an object, only what equals a value asks for nothing new. -/
theorem settled_iff_of_leaf {v : Value} {old : Option Value}
    (hleaf : ∀ members inner, v = .object members → old = some (.object inner) → False) :
    Settled v old ↔ old.any (·.equal v) = true := by
  constructor
  · intro h
    cases h with
    | equal hequal => exact hequal
    | object hmembers => exact (hleaf _ _ rfl rfl).elim
  · intro h
    obtain ⟨found, rfl, hequal⟩ := (Option.any_eq_true _ _).mp h
    exact .equal hequal

theorem forall_mem_bagChanges_iff {after before : Bag Value} {p : String × Value → Prop} :
    (∀ change ∈ (bagChanges after before).entries, p change) ↔
      ∀ entry ∈ after.entries, (before.get? entry.1).any (·.equal entry.2) = false →
        p (entry.1, entry.2.changeFrom (before.get? entry.1)) := by
  obtain ⟨entries⟩ := after
  rw [bagChanges]
  constructor
  · intro h entry hmem hdiffers
    exact h _ (mem_entryChanges_iff.mpr ⟨entry, hmem, hdiffers, rfl⟩)
  · intro h change hchange
    obtain ⟨entry, hmem, hdiffers, rfl⟩ := mem_entryChanges_iff.mp hchange
    exact h entry hmem hdiffers

/-- The changes to attributes are void if and only if these ask for nothing new. -/
theorem isVoid_bagChanges_iff {after before : Bag Value} :
    isVoid (.object (bagChanges after before)) (some (.object before)) = true ↔
      ∀ entry ∈ after.entries, Settled entry.2 (before.get? entry.1) := by
  induction after using bagInduction generalizing before with
  | step after ih =>
      rw [isVoid_object_iff, forall_mem_bagChanges_iff]
      apply forall₂_congr
      intro entry hmem
      rcases entry.2.meets_object_or (before.get? entry.1) with
        ⟨members, inner, hmembers, hinner⟩ | hleaf
      · rw [hmembers, hinner, changeFrom, ih entry hmem members hmembers, settled_object_iff,
          Option.any_some, ← Bool.not_eq_true, ← or_iff_not_imp_left]
      · rw [changeFrom.eq_2 _ _ hleaf, isVoid.eq_2 _ _ hleaf, settled_iff_of_leaf hleaf]
        simp

end Value

/-! ## Assignments of effective changes -/

namespace Assignment

open Value

variable {present : Option Attributes} {entry : String × Value}

theorem column_ofEffective (present : Option Attributes) (entry : String × Value) :
    (ofEffective present entry).column = StorageName.column entry.1 := by
  unfold ofEffective
  split <;> rfl

theorem ofEffective_of_objects {members inner : Bag Value} (hmembers : entry.2 = .object members)
    (hinner : present.bind (·.get? entry.1) = some (.object inner)) :
    ofEffective present entry =
      .merge (StorageName.column entry.1) (placesInBag [] members inner) := by
  unfold ofEffective
  rw [hmembers, hinner]

theorem ofEffective_of_leaf
    (hleaf : ∀ members inner, entry.2 = .object members →
      present.bind (·.get? entry.1) = some (.object inner) → False) :
    ofEffective present entry = .whole (StorageName.column entry.1) entry.2 := by
  unfold ofEffective
  dsimp only
  split
  · rename_i hold hchange
    exact (hleaf _ _ hchange hold).elim
  · rfl

theorem ofChange?_of_leaf {old : Option Value} {name : String} {change : Value}
    (hleaf : ∀ members inner, change = .object members → old = some (.object inner) → False) :
    ofChange? old name change = some (.whole (StorageName.column name) change) := by
  unfold ofChange?
  split
  · exact (hleaf _ _ rfl rfl).elim
  · rfl

/-- A void change asks for no assignment, and every other one asks for its own. -/
theorem ofChange?_eq (present : Option Attributes) (entry : String × Value) :
    ofChange? (present.bind (·.get? entry.1)) entry.1 entry.2 =
      if entry.2.isVoid (present.bind (·.get? entry.1)) then none
      else some (ofEffective present entry) := by
  rcases entry.2.meets_object_or (present.bind (·.get? entry.1)) with
    ⟨members, inner, hmembers, hinner⟩ | hleaf
  · rw [ofEffective_of_objects hmembers hinner, hmembers, hinner]
    simp [ofChange?, ← placesInBag_eq_nil_iff]
  · rw [ofEffective_of_leaf hleaf, ofChange?_of_leaf hleaf, isVoid.eq_2 _ _ hleaf]
    rfl

theorem ofChanges_eq_map (present : Option Attributes) (changes : Attributes) :
    ofChanges present changes = (changes.effectiveOn present).map (ofEffective present) := by
  unfold ofChanges Attributes.effectiveOn
  rw [← List.filterMap_eq_map, List.filterMap_filter]
  apply List.filterMap_congr
  rintro ⟨name, change⟩ -
  have heq := ofChange?_eq present (name, change)
  dsimp only at heq ⊢
  rw [heq]
  by_cases hvoid : change.isVoid (present.bind (·.get? name)) = true <;> simp [hvoid]

theorem map_column_ofChanges (present : Option Attributes) (changes : Attributes) :
    (ofChanges present changes).map column =
      ((changes.effectiveOn present).map (·.1)).map StorageName.column := by
  rw [ofChanges_eq_map, List.map_map, List.map_map]
  exact List.map_congr_left fun entry _ => column_ofEffective present entry

/-- An effective change without a double that is not finite has a text. -/
theorem exists_sql_ofEffective (hfinite : FloatsFinite entry.2) :
    ∃ text, (ofEffective present entry).sql = .ok text := by
  rcases entry.2.meets_object_or (present.bind (·.get? entry.1)) with
    ⟨members, inner, hmembers, hinner⟩ | hleaf
  · rw [ofEffective_of_objects hmembers hinner, exists_sql_merge_iff]
    intro place hplace x hx
    apply hfinite x
    rw [hmembers, ← hx]
    exact within_of_mem_placesInBag hplace
  · have hvalue : ∀ x, entry.2 = .float x → x.isFinite = true := by
      intro x hx
      apply hfinite x
      rw [hx]
      exact .self _
    obtain ⟨text, htext⟩ := exists_sql_eq hvalue
    rw [ofEffective_of_leaf hleaf, sql, Sql.assignment, htext]
    exact ⟨_, rfl⟩

end Assignment

/-! ## Updates -/

theorem Attributes.effectiveOn_eq_nil_iff {changes : Attributes} {present : Option Attributes} :
    changes.effectiveOn present = [] ↔
      ∀ entry ∈ changes.entries, entry.2.isVoid (present.bind (·.get? entry.1)) = true := by
  simp [effectiveOn]

/-- Parts that all have a text have one together. -/
theorem Failure.exists_mapM_eq_ok {α β : Type} {write : α → Except Failure β} {items : List α}
    (h : ∀ a ∈ items, ∃ b, write a = .ok b) : ∃ bs, items.mapM write = .ok bs := by
  induction items with
  | nil => exact ⟨[], rfl⟩
  | cons a items ih =>
      obtain ⟨b, hb⟩ := h a List.mem_cons_self
      obtain ⟨bs, hbs⟩ := ih fun c hc => h c (List.mem_cons_of_mem _ hc)
      rw [List.mapM_cons, hb, hbs]
      exact ⟨b :: bs, rfl⟩

section Updates

variable {r : Resource}

/-- An update by a transformation is the update by the changes that it makes. -/
theorem compile_transformed {before : Attributes} (hr : r.attributes = some before)
    (settings : Settings) (transform : Attributes → Attributes) (filter : Condition) :
    compile settings r (.update (.transformed transform) filter) =
      compile settings r (.update (.given ((transform before).changesSince before)) filter) := by
  apply compile_eq_of_statement_eq
  have hchanges : (Revision.transformed transform).changes r.attributes =
      .ok ((transform before).changesSince before) := by
    rw [hr]
    rfl
  rw [Request.statement_update _ hchanges, Request.statement_update _ rfl]

/-- An update is refused if and only if each of its changes is void. -/
theorem compile_given_refused_iff (settings : Settings) (changes : Attributes)
    (filter : Condition) :
    (∃ cause, compile settings r (.update (.given changes) filter) = .error (.refused cause)) ↔
      ∀ entry ∈ changes.entries,
        entry.2.isVoid (r.attributes.bind (·.get? entry.1)) = true := by
  have hgiven : (Revision.given changes).changes r.attributes = .ok changes := rfl
  rw [← Attributes.effectiveOn_eq_nil_iff]
  simp only [compile_eq_refused_iff, Request.statement_update changes hgiven,
    Assignment.ofChanges_eq_map, List.isEmpty_map, List.isEmpty_iff]
  split_ifs with hempty <;> simp [hempty]

/-- What an update writes is the text of its effective changes. -/
theorem exists_compile_given {changes : Attributes} {filter : Condition}
    (hchanges : (Value.object changes).FloatsFinite) (hfilter : filter.Finite)
    (heffective : changes.effectiveOn r.attributes ≠ []) (settings : Settings) :
    ∃ compiled texts condition,
      compile settings r (.update (.given changes) filter) = .ok compiled ∧
        (changes.effectiveOn r.attributes).mapM
          (fun entry => (Assignment.ofEffective r.attributes entry).sql) = .ok texts ∧
        filter.sql = .ok condition ∧
        compiled.sql =
          "UPDATE " ++ Sql.identifier r.table ++ " SET " ++ String.intercalate ", " texts ++
            " WHERE " ++ condition ++ ";" := by
  obtain ⟨condition, hcondition⟩ := Condition.exists_sql_eq hfilter
  obtain ⟨texts, htexts⟩ : ∃ texts, (changes.effectiveOn r.attributes).mapM
      (fun entry => (Assignment.ofEffective r.attributes entry).sql) = .ok texts := by
    apply Failure.exists_mapM_eq_ok
    intro entry hentry
    apply Assignment.exists_sql_ofEffective
    intro x hx
    exact hchanges x (.member (List.mem_of_mem_filter hentry) hx)
  have hassignments : (Assignment.ofChanges r.attributes changes).mapM Assignment.sql =
      .ok texts := by
    rw [Assignment.ofChanges_eq_map, List.mapM_map]
    exact htexts
  have hgiven : (Revision.given changes).changes r.attributes = .ok changes := rfl
  have hstatement : (Request.update (.given changes) filter).statement settings r =
      .ok (.update r.table (Assignment.ofChanges r.attributes changes) filter) := by
    rw [Request.statement_update changes hgiven, if_neg]
    simpa [Assignment.ofChanges_eq_map] using heffective
  have hsql : (Statement.update r.table (Assignment.ofChanges r.attributes changes) filter).sql =
      .ok ("UPDATE " ++ Sql.identifier r.table ++ " SET " ++ String.intercalate ", " texts ++
        " WHERE " ++ condition ++ ";") := by
    rw [Statement.sql, hassignments, hcondition]
    rfl
  exact ⟨_, texts, condition, compile_eq_ok hstatement hsql, htexts, hcondition, rfl⟩

/-- An update by a transformation is refused if and only if this asks for nothing new. -/
theorem compile_transformed_refused_iff {before : Attributes} (hr : r.attributes = some before)
    (settings : Settings) (transform : Attributes → Attributes) (filter : Condition) :
    (∃ cause,
      compile settings r (.update (.transformed transform) filter) = .error (.refused cause)) ↔
      ∀ entry ∈ (transform before).entries, entry.2.Settled (before.get? entry.1) := by
  rw [compile_transformed hr, compile_given_refused_iff, ← Value.isVoid_bagChanges_iff,
    Value.isVoid_object_iff, hr]
  rfl

end Updates

/-- An update is refused if and only if each of its changes is void, and what it sets
otherwise is the text of the others, in their order.  An update by a transformation is
refused if and only if the transformation asks for nothing new, and is compiled like the
update by the changes that the transformation makes. -/
theorem compile_update_effective (settings : Settings) (r : Resource) (filter : Condition) :
    (∀ changes : Attributes,
      (∃ cause, compile settings r (.update (.given changes) filter) = .error (.refused cause)) ↔
        ∀ entry ∈ changes.entries,
          entry.2.isVoid (r.attributes.bind (·.get? entry.1)) = true) ∧
    (∀ changes : Attributes, (Value.object changes).FloatsFinite → filter.Finite →
      (∃ entry ∈ changes.entries,
        entry.2.isVoid (r.attributes.bind (·.get? entry.1)) = false) →
      ∃ compiled texts condition,
        compile settings r (.update (.given changes) filter) = .ok compiled ∧
          (changes.effectiveOn r.attributes).mapM
            (fun entry => (Assignment.ofEffective r.attributes entry).sql) = .ok texts ∧
          filter.sql = .ok condition ∧
          compiled.sql =
            "UPDATE " ++ Sql.identifier r.table ++ " SET " ++ String.intercalate ", " texts ++
              " WHERE " ++ condition ++ ";") ∧
    (∀ before, r.attributes = some before → ∀ transform : Attributes → Attributes,
      (∃ cause,
        compile settings r (.update (.transformed transform) filter) = .error (.refused cause)) ↔
        ∀ entry ∈ (transform before).entries, entry.2.Settled (before.get? entry.1)) ∧
    ∀ (e : Entity) (transform : Attributes → Attributes),
      compile settings e.toResource (.update (.given (e.changes transform)) filter) =
        compile settings e.toResource (.update (.transformed transform) filter) := by
  refine ⟨?refused, ?written, ?transformed, ?changes⟩
  case refused =>
      intro changes
      exact compile_given_refused_iff settings changes filter
  case written =>
      rintro changes hchanges hfilter ⟨entry, hentry, heffective⟩
      apply exists_compile_given hchanges hfilter
      rw [ne_eq, Attributes.effectiveOn_eq_nil_iff]
      intro hvoid
      rw [hvoid entry hentry] at heffective
      cases heffective
  case transformed =>
      intro before hr transform
      exact compile_transformed_refused_iff hr settings transform filter
  case changes =>
      intro e transform
      exact (compile_transformed rfl settings transform filter).symm

/-- A resource with objects to change, one within another, and a number. -/
def nestedObjects : Resource where
  typeName := "shop"
  id := some "x"
  attributes := some
    ⟨[("a", .object ⟨[("inner", .object ⟨[("k", .int 1)]⟩)]⟩), ("n", .int 1),
      ("b", .object ⟨[]⟩), ("c", .object ⟨[("z", .int 1)]⟩), ("d", .object ⟨[]⟩)]⟩

/-- Two effective changes with void ones before, between and after them. -/
def voidAround : Attributes :=
  ⟨[("a", .object ⟨[("inner", .object ⟨[]⟩)]⟩), ("n", .float ⟨0x3ff8000000000000⟩),
    ("b", .object ⟨[]⟩), ("c", .object ⟨[("z", .null)]⟩), ("d", .object ⟨[]⟩)]⟩

theorem compile_update_effective_voidAround :
    let filter := Condition.compare "id" .equals (.text "x") false
    let keepLess := fun _ : Attributes =>
      (⟨[("n", .int 1), ("a", .object ⟨[("inner", .object ⟨[]⟩)]⟩)]⟩ : Attributes)
    (Value.object voidAround).FloatsFinite ∧ filter.Finite ∧
    (∃ compiled texts condition,
      compile {} nestedObjects (.update (.given voidAround) filter) = .ok compiled ∧
        (voidAround.effectiveOn nestedObjects.attributes).mapM
          (fun entry => (Assignment.ofEffective nestedObjects.attributes entry).sql) = .ok texts ∧
        filter.sql = .ok condition ∧
        compiled.sql =
          "UPDATE " ++ Sql.identifier nestedObjects.table ++ " SET " ++
            String.intercalate ", " texts ++ " WHERE " ++ condition ++ ";") ∧
    ∃ cause, compile {} nestedObjects (.update (.transformed keepLess) filter) =
      .error (.refused cause) := by
  intro filter keepLess
  have hfloats : (Value.object voidAround).FloatsFinite := by
    intro x hx
    have hparts : Value.Within (.float x) (.float ⟨0x3ff8000000000000⟩) ∨
        Value.Within (.float x) .null := by
      simpa [voidAround, Value.within_object_iff] using hx
    rcases hparts with hpart | hpart
    · cases hpart
      rfl
    · cases hpart
  have hfilter : filter.Finite := by
    simp [filter, Condition.Finite]
  have heffective : ∃ entry ∈ voidAround.entries,
      entry.2.isVoid (nestedObjects.attributes.bind (·.get? entry.1)) = false :=
    ⟨("n", .float ⟨0x3ff8000000000000⟩), by simp [voidAround], rfl⟩
  have hsettled : ∀ before, nestedObjects.attributes = some before →
      ∀ entry ∈ (keepLess before).entries, entry.2.Settled (before.get? entry.1) := by
    intro before hbefore
    cases hbefore
    simp only [keepLess, List.forall_mem_cons, List.not_mem_nil, false_imp_iff, implies_true,
      and_true]
    refine ⟨.equal (by simp [Value.equal]), .object ?_⟩
    simp only [List.forall_mem_cons, List.not_mem_nil, false_imp_iff, implies_true, and_true]
    exact .object (by simp)
  obtain ⟨-, hwritten, htransformed, -⟩ := compile_update_effective {} nestedObjects filter
  exact ⟨hfloats, hfilter, hwritten voidAround hfloats hfilter heffective,
    (htransformed _ rfl keepLess).mpr (hsettled _ rfl)⟩

end ResourceSql
