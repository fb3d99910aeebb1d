import ResourceSql.Proofs.CanonicalValues
import ResourceSql.Resource.Entity

/-!
# Packed resources

A resource that is written as a document and decoded again keeps its type and its
identifier.  Its attributes come back as the canonical values that have their documents, so
the resource is the same again if and only if its attributes are canonical.
-/

namespace ResourceSql

/-! ## Comparison with what comes back -/

namespace Value

theorem equalItems_ofJson_iff {items : List Value} :
    equalItems (items.map fun v => ofJson v.toJson) items = true ↔
      ∀ v ∈ items, (ofJson v.toJson).equal v = true := by
  induction items with
  | nil => simp [equalItems]
  | cons v rest ih =>
      rw [List.map_cons, equalItems, Bool.and_eq_true, ih, List.forall_mem_cons]

theorem equalEntries_ofJson_iff {entries : List (String × Value)} :
    equalEntries (entries.map fun entry => (entry.1, ofJson entry.2.toJson)) entries = true ↔
      ∀ entry ∈ entries, (ofJson entry.2.toJson).equal entry.2 = true := by
  induction entries with
  | nil => simp [equalEntries]
  | cons entry rest ih =>
      obtain ⟨name, v⟩ := entry
      rw [List.map_cons, equalEntries, Bool.and_eq_true, Bool.and_eq_true, ih,
        List.forall_mem_cons]
      simp

/-- A canonical value that is neither an object nor a list has a document of its kind, and
every other one comes back as a value of another kind. -/
theorem equal_ofJson_toJson_atom {v : Value} (hobject : ∀ members, v ≠ .object members)
    (hlist : ∀ items, v ≠ .list items) :
    (ofJson v.toJson).equal v = true ↔ v.isNative = true := by
  cases v with
  | object members => exact absurd rfl (hobject members)
  | list items => exact absurd rfl (hlist items)
  | int n =>
      have hback : ofJson (Value.int n).toJson = .int n := ofWideInt_ofInt64 n
      simp [hback, equal, isNative]
  | uint n =>
      have hback : ofJson (Value.uint n).toJson = ofUInt64 n := ofWideInt_ofUInt64 n
      rw [hback, isNative, decide_eq_true_iff]
      by_cases hn : 0x8000000000000000 ≤ n.toNat
      · simp [ofUInt64_of_le hn, equal, hn]
      · have hsmall : ofUInt64 n = .int (Int64.ofNat n.toNat) := if_pos (Nat.not_le.mp hn)
        simp [hsmall, equal, hn]
  | float x =>
      rw [toJson, isNative]
      split_ifs with hfinite
      · have hnan : x.isNaN = false := Binary64.isNaN_eq_false hfinite
        simp [ofJson, equal, Binary64.equal, hnan, hfinite]
      · simp [ofJson, equal, hfinite]
  | _ => simp [toJson, ofJson, equal, isNative]

/-- What comes back from a document equals the value if and only if the value is canonical. -/
theorem equal_ofJson_toJson_iff {v : Value} :
    (ofJson v.toJson).equal v = true ↔ v.Canonical := by
  induction v using partsInduction with
  | object members ih =>
      obtain ⟨entries⟩ := members
      rw [ofJson_toJson_object, equal, equalBags, equalEntries_ofJson_iff, canonical_object_iff]
      exact forall₂_congr ih
  | list items ih =>
      rw [ofJson_toJson_list, equal, equalItems_ofJson_iff, canonical_list_iff]
      exact forall₂_congr ih
  | atom v hobject hlist =>
      rw [equal_ofJson_toJson_atom hobject hlist]
      exact ⟨canonical_atom hobject hlist, fun h => h v (.self v)⟩

end Value

/-! ## Attributes through their document -/

namespace Attributes

theorem object_throughJson (attributes : Attributes) :
    Value.object attributes.throughJson = Value.ofJson (Value.object attributes).toJson := rfl

theorem throughJson_eq_self_iff {attributes : Attributes} :
    attributes.throughJson = attributes ↔ attributes.Canonical := by
  rw [canonical_iff, ← Value.ofJson_toJson_eq_self_iff, ← object_throughJson,
    Value.object.injEq]

theorem equal_throughJson_iff {attributes : Attributes} :
    attributes.throughJson.equal attributes = true ↔ attributes.Canonical := by
  rw [canonical_iff, ← Value.equal_ofJson_toJson_iff, ← object_throughJson, Value.equal, equal]

theorem entries_throughJson (attributes : Attributes) :
    attributes.throughJson.entries =
      attributes.entries.map fun (name, v) => (name, Value.ofJson v.toJson) := by
  have hobject := object_throughJson attributes
  rw [Value.ofJson_toJson_object] at hobject
  rw [Value.object.inj hobject]

end Attributes

/-! ## Packing and unpacking -/

/-- What is decoded from the document of a resource. -/
theorem Resource.ofJson_toJson (r : Resource) :
    Resource.ofJson r.toJson =
      .ok { r with attributes := r.attributes.map Attributes.throughJson } := by
  -- The document has one of four lists of members, with or without identifier and attributes.
  obtain ⟨typeName, id, attributes⟩ := r
  cases id <;> cases attributes <;> rfl

theorem Entity.unpack_pack (e : Entity) :
    (Resource.ofJson e.toResource.toJson).map Entity.ofResource =
      .ok { e with attributes := e.attributes.throughJson } := by
  rw [Resource.ofJson_toJson]
  rfl

/-- A resource whose attributes are canonical is decoded from its document as it is, and
what is absent stays apart from what is empty.  A packed entity is unpacked with its type,
its identifier and the values that come back from the documents of its own ones.  This is
the entity itself, identically or in comparison, if and only if its attributes are
canonical. -/
theorem packed_resource_comes_back :
    (∀ r : Resource, (∀ attributes ∈ r.attributes, attributes.Canonical) →
        Resource.ofJson r.toJson = .ok r) ∧
      ∀ e : Entity, ∃ back : Entity,
        (Resource.ofJson e.toResource.toJson).map Entity.ofResource = .ok back ∧
          back.typeName = e.typeName ∧ back.id = e.id ∧
          back.attributes.entries =
            e.attributes.entries.map (fun (name, v) => (name, Value.ofJson v.toJson)) ∧
          (back = e ↔ e.attributes.Canonical) ∧
          (back.equal e = true ↔ e.attributes.Canonical) := by
  constructor
  · intro r hr
    rw [Resource.ofJson_toJson]
    obtain ⟨typeName, id, attributes⟩ := r
    cases attributes with
    | none => rfl
    | some attributes =>
        have hsame := Attributes.throughJson_eq_self_iff.mpr (hr attributes rfl)
        rw [Option.map_some, hsame]
  · intro e
    refine ⟨_, e.unpack_pack, rfl, rfl, e.attributes.entries_throughJson, ?_, ?_⟩
    · rw [← Attributes.throughJson_eq_self_iff]
      exact ⟨congrArg Entity.attributes, fun h => by rw [h]⟩
    · rw [← Attributes.equal_throughJson_iff]
      simp [Entity.equal]

/-- A resource whose identifier and attributes are there, and empty. -/
def hollowResource : Resource := { typeName := "item", id := some "", attributes := some ⟨[]⟩ }

/-- An entity with a day in a list. -/
def datedEntity : Entity :=
  { typeName := "item", attributes := ⟨[("days", .list [.null, .date ⟨2018, 3, 9⟩])]⟩ }

theorem packed_resource_comes_back_hollowResource :
    (∀ attributes ∈ hollowResource.attributes, attributes.Canonical) ∧
      Resource.ofJson hollowResource.toJson = .ok hollowResource ∧
      Resource.ofJson (Resource.toJson { typeName := "item" }) = .ok { typeName := "item" } ∧
      ∃ back : Entity,
        (Resource.ofJson datedEntity.toResource.toJson).map Entity.ofResource = .ok back ∧
          back.attributes.entries = [("days", .list [.null, .text "2018-03-09"])] ∧
          back.equal datedEntity = false := by
  have hcanonical : ∀ attributes ∈ hollowResource.attributes, attributes.Canonical := by
    intro attributes hattributes
    cases hattributes
    exact fun entry hentry => absurd hentry List.not_mem_nil
  have hdated : ¬datedEntity.attributes.Canonical := by
    intro h
    have hday : Value.Within (.date ⟨2018, 3, 9⟩) (.list [.null, .date ⟨2018, 3, 9⟩]) :=
      .item (by simp) (.self _)
    cases h ("days", _) List.mem_cons_self _ hday
  obtain ⟨hresources, hentities⟩ := packed_resource_comes_back
  obtain ⟨back, hback, -, -, hentries, -, hequal⟩ := hentities datedEntity
  refine ⟨hcanonical, hresources _ hcanonical, hresources _ nofun, back, hback, ?_, ?_⟩
  · rw [hentries]
    have hday : Date.text ⟨2018, 3, 9⟩ = "2018-03-09" := by decide +kernel
    simp [datedEntity, Value.toJson, Value.toJsonItems, Value.ofJson, Value.ofJsonItems, hday]
  · exact Bool.eq_false_iff.mpr fun h => hdated (hequal.mp h)

end ResourceSql
