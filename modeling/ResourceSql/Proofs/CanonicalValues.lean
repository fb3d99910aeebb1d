import ResourceSql.Proofs.Json.RoundTrip
import ResourceSql.Value.Canonical

/-!
# Documents and canonical values

Well-formed documents and canonical values correspond one to one.  A value that is not
canonical shares its document with the canonical value that the document is taken back to.
-/

namespace ResourceSql

namespace Value

/-! ## Whole numbers -/

theorem ofWideInt_ofInt64 (n : Int64) : ofWideInt (WideInt.ofInt64 n) = .int n := by
  have hlt : n.toInt < 0x8000000000000000 := Int64.toInt_lt n
  rw [ofWideInt, WideInt.ofInt64, if_pos hlt, Int64.ofInt_toInt]

theorem ofWideInt_ofUInt64 (n : UInt64) : ofWideInt (WideInt.ofUInt64 n) = ofUInt64 n := by
  unfold ofWideInt ofUInt64 WideInt.ofUInt64
  by_cases h : n.toNat < 0x8000000000000000
  · have hint : (n.toNat : Int) < 0x8000000000000000 := by exact_mod_cast h
    rw [if_pos hint, if_pos h]
    rfl
  · have hint : ¬(n.toNat : Int) < 0x8000000000000000 := by exact_mod_cast h
    rw [if_neg hint, if_neg h, Int.toNat_natCast, UInt64.ofNat_toNat]

theorem ofUInt64_of_le {n : UInt64} (h : 0x8000000000000000 ≤ n.toNat) :
    ofUInt64 n = .uint n :=
  if_neg (Nat.not_lt.mpr h)

theorem eq_ofInt64_or_eq_ofUInt64 (n : WideInt) :
    (∃ m, n = WideInt.ofInt64 m) ∨
      ∃ m, n = WideInt.ofUInt64 m ∧ 0x8000000000000000 ≤ m.toNat := by
  obtain ⟨val, hlower, hupper⟩ := n
  by_cases h : val < 0x8000000000000000
  · have hval : (Int64.ofInt val).toInt = val := Int64.toInt_ofInt_of_le hlower h
    refine Or.inl ⟨Int64.ofInt val, ?_⟩
    simp only [WideInt.ofInt64, hval]
  · have hnat : (UInt64.ofNat val.toNat).toNat = val.toNat := by
      have hsize : val.toNat < UInt64.size := by
        change val.toNat < 0x10000000000000000
        omega
      exact UInt64.toNat_ofNat_of_lt' hsize
    have hval : (val.toNat : Int) = val := by omega
    refine Or.inr ⟨UInt64.ofNat val.toNat, ?_, by omega⟩
    simp only [WideInt.ofUInt64, hnat, hval]

theorem toJson_ofWideInt (n : WideInt) : (ofWideInt n).toJson = .int n := by
  rcases eq_ofInt64_or_eq_ofUInt64 n with ⟨m, rfl⟩ | ⟨m, rfl, hm⟩
  · rw [ofWideInt_ofInt64]
    rfl
  · rw [ofWideInt_ofUInt64, ofUInt64_of_le hm]
    rfl

theorem canonical_ofWideInt (n : WideInt) : (ofWideInt n).Canonical := by
  rcases eq_ofInt64_or_eq_ofUInt64 n with ⟨m, rfl⟩ | ⟨m, rfl, hm⟩
  · rw [ofWideInt_ofInt64]
    exact canonical_atom nofun nofun rfl
  · rw [ofWideInt_ofUInt64, ofUInt64_of_le hm]
    exact canonical_atom nofun nofun (decide_eq_true hm)

theorem namesUnique_ofWideInt (n : WideInt) : (ofWideInt n).NamesUnique := by
  rcases eq_ofInt64_or_eq_ofUInt64 n with ⟨m, rfl⟩ | ⟨m, rfl, hm⟩
  · rw [ofWideInt_ofInt64]
    exact namesUnique_atom nofun nofun
  · rw [ofWideInt_ofUInt64, ofUInt64_of_le hm]
    exact namesUnique_atom nofun nofun

/-! ## From documents to values -/

/-- A well-formed document is the document of its value. -/
theorem toJson_ofJson {j : Json} (hj : j.WellFormed) : (ofJson j).toJson = j := by
  induction j using Json.partsInduction with
  | object members ih =>
      have hmembers := Json.wellFormedBag_iff.mp hj.2
      have hentries : ∀ entry ∈ members.entries,
          (entry.1, (ofJson entry.2).toJson) = entry := by
        intro entry hmem
        rw [ih entry hmem (hmembers entry hmem)]
      rw [ofJson_object, toJson_object, List.map_map]
      exact congrArg (fun entries => Json.object ⟨entries⟩)
        ((List.map_congr_left hentries).trans (List.map_id' _))
  | array items ih =>
      have hwell := Json.wellFormedItems_iff.mp hj
      have hitems : ∀ item ∈ items, (ofJson item).toJson = item :=
        fun item hmem => ih item hmem (hwell item hmem)
      rw [ofJson_array, toJson_list, List.map_map]
      exact congrArg Json.array ((List.map_congr_left hitems).trans (List.map_id' _))
  | atom j hobject harray =>
      cases j with
      | object members => exact absurd rfl (hobject members)
      | array items => exact absurd rfl (harray items)
      | int n => exact toJson_ofWideInt n
      | float x => exact if_pos hj
      | _ => rfl

theorem namesUnique_ofJson {j : Json} (hj : j.WellFormed) : (ofJson j).NamesUnique := by
  induction j using Json.partsInduction with
  | object members ih =>
      obtain ⟨hunique, hmembers⟩ := hj
      rw [Json.wellFormedBag_iff] at hmembers
      have hnames : (ofJsonBag members).Unique := by
        rwa [Bag.Unique, names_ofJsonBag]
      rw [ofJson, namesUnique_object_iff]
      refine ⟨hnames, ?_⟩
      intro entry hentry
      obtain ⟨entries⟩ := members
      rw [ofJsonBag, ofJsonEntries_eq_map] at hentry
      obtain ⟨source, hsource, rfl⟩ := List.mem_map.mp hentry
      exact ih source hsource (hmembers source hsource)
  | array items ih =>
      have hitems := Json.wellFormedItems_iff.mp hj
      rw [ofJson_array, namesUnique_list_iff]
      intro v hv
      obtain ⟨item, hitem, rfl⟩ := List.mem_map.mp hv
      exact ih item hitem (hitems item hitem)
  | atom j hobject harray =>
      cases j with
      | object members => exact absurd rfl (hobject members)
      | array items => exact absurd rfl (harray items)
      | int n => exact namesUnique_ofWideInt n
      | _ => exact namesUnique_atom (by simp [ofJson]) (by simp [ofJson])

/-! ## From values to documents and back -/

/-- Doubles that are not finite are null in a document, so only the names matter. -/
theorem wellFormed_toJson {v : Value} (hnames : v.NamesUnique) : v.toJson.WellFormed := by
  induction v using partsInduction with
  | object members ih =>
      obtain ⟨hunique, hmembers⟩ := namesUnique_object_iff.mp hnames
      refine ⟨?_, Json.wellFormedBag_iff.mpr ?_⟩
      · rwa [Bag.Unique, names_toJsonBag]
      · intro entry hentry
        obtain ⟨entries⟩ := members
        rw [toJsonBag, toJsonEntries_eq_map] at hentry
        obtain ⟨source, hsource, rfl⟩ := List.mem_map.mp hentry
        exact ih source hsource (hmembers source hsource)
  | list items ih =>
      have hitems := namesUnique_list_iff.mp hnames
      rw [toJson, Json.WellFormed, Json.wellFormedItems_iff, toJsonItems_eq_map]
      intro j hj
      obtain ⟨v, hv, rfl⟩ := List.mem_map.mp hj
      exact ih v hv (hitems v hv)
  | atom v hobject hlist =>
      cases v with
      | object members => exact absurd rfl (hobject members)
      | list items => exact absurd rfl (hlist items)
      | float x =>
          rw [toJson]
          split_ifs with hfinite
          · exact hfinite
          · trivial
      | _ => trivial

theorem ofJson_toJson_object (members : Bag Value) :
    ofJson (toJson (.object members)) =
      .object ⟨members.entries.map fun entry => (entry.1, ofJson entry.2.toJson)⟩ := by
  rw [toJson_object, ofJson_object, List.map_map]
  rfl

theorem ofJson_toJson_list (items : List Value) :
    ofJson (toJson (.list items)) = .list (items.map fun v => ofJson v.toJson) := by
  rw [toJson_list, ofJson_array, List.map_map]
  rfl

theorem canonical_ofJson_toJson (v : Value) : (ofJson v.toJson).Canonical := by
  induction v using partsInduction with
  | object members ih =>
      rw [ofJson_toJson_object, canonical_object_iff]
      intro entry hentry
      obtain ⟨source, hsource, rfl⟩ := List.mem_map.mp hentry
      exact ih source hsource
  | list items ih =>
      rw [ofJson_toJson_list, canonical_list_iff]
      intro v hv
      obtain ⟨source, hsource, rfl⟩ := List.mem_map.mp hv
      exact ih source hsource
  | atom v hobject hlist =>
      cases v with
      | object members => exact absurd rfl (hobject members)
      | list items => exact absurd rfl (hlist items)
      | int n => exact canonical_ofWideInt _
      | uint n => exact canonical_ofWideInt _
      | float x =>
          rw [toJson]
          split_ifs with hfinite
          · exact canonical_atom (by simp [ofJson]) (by simp [ofJson]) hfinite
          · exact canonical_atom (by simp [ofJson]) (by simp [ofJson]) rfl
      | _ => exact canonical_atom (by simp [toJson, ofJson]) (by simp [toJson, ofJson]) rfl

theorem toJson_ofJson_toJson (v : Value) : (ofJson v.toJson).toJson = v.toJson := by
  induction v using partsInduction with
  | object members ih =>
      rw [ofJson_toJson_object, toJson_object, toJson_object, List.map_map]
      congr 2
      apply List.map_congr_left
      intro entry hmem
      exact congrArg (Prod.mk entry.1) (ih entry hmem)
  | list items ih =>
      rw [ofJson_toJson_list, toJson_list, toJson_list, List.map_map]
      exact congrArg Json.array (List.map_congr_left ih)
  | atom v hobject hlist =>
      cases v with
      | object members => exact absurd rfl (hobject members)
      | list items => exact absurd rfl (hlist items)
      | int n => exact toJson_ofWideInt _
      | uint n => exact toJson_ofWideInt _
      | float x =>
          rw [toJson]
          split_ifs with hfinite
          · exact if_pos hfinite
          · rfl
      | _ => rfl

theorem ofJson_toJson {v : Value} (hv : v.Canonical) : ofJson v.toJson = v := by
  induction v using partsInduction with
  | object members ih =>
      have hmembers := canonical_object_iff.mp hv
      have hentries : ∀ entry ∈ members.entries,
          (entry.1, ofJson entry.2.toJson) = entry := by
        intro entry hmem
        rw [ih entry hmem (hmembers entry hmem)]
      rw [ofJson_toJson_object]
      exact congrArg (fun entries => Value.object ⟨entries⟩)
        ((List.map_congr_left hentries).trans (List.map_id' _))
  | list items ih =>
      have hcanonical := canonical_list_iff.mp hv
      have hitems : ∀ item ∈ items, ofJson item.toJson = item :=
        fun item hmem => ih item hmem (hcanonical item hmem)
      rw [ofJson_toJson_list]
      exact congrArg Value.list ((List.map_congr_left hitems).trans (List.map_id' _))
  | atom v hobject hlist =>
      have hnative := hv v (.self v)
      cases v with
      | object members => exact absurd rfl (hobject members)
      | list items => exact absurd rfl (hlist items)
      | int n => exact ofWideInt_ofInt64 n
      | uint n =>
          have hle : 0x8000000000000000 ≤ n.toNat := of_decide_eq_true hnative
          exact (ofWideInt_ofUInt64 n).trans (ofUInt64_of_le hle)
      | float x =>
          have hfinite : x.isFinite = true := hnative
          rw [toJson, if_pos hfinite]
          rfl
      | null => rfl
      | bool b => rfl
      | text s => rfl
      | _ => cases hnative

theorem canonical_ofJson {j : Json} (hj : j.WellFormed) : (ofJson j).Canonical := by
  rw [← toJson_ofJson hj]
  exact canonical_ofJson_toJson (ofJson j)

/-- A value comes back from its document as it is if and only if it is canonical. -/
theorem ofJson_toJson_eq_self_iff {v : Value} : ofJson v.toJson = v ↔ v.Canonical := by
  constructor
  · intro h
    rw [← h]
    exact canonical_ofJson_toJson v
  · exact ofJson_toJson

/-- Well-formed documents and canonical values correspond one to one, and what any value
comes back as from its document has the same document.  An unsigned number is kept as it is
only beyond the signed ones, and keeps every digit in either form. -/
theorem documents_correspond :
    (∀ j : Json, j.WellFormed →
        (ofJson j).Canonical ∧ (ofJson j).NamesUnique ∧ (ofJson j).toJson = j) ∧
      (∀ v : Value, v.Canonical → ofJson v.toJson = v ∧ (v.NamesUnique → v.toJson.WellFormed)) ∧
      (∀ v : Value, v.toJson = (ofJson v.toJson).toJson) ∧
      ∀ n : UInt64,
        ofJson (Value.uint n).toJson = ofUInt64 n ∧
          (ofUInt64 n).toJson = .int (WideInt.ofUInt64 n) ∧
          ∀ m, ofUInt64 n = .uint m → 0x8000000000000000 ≤ m.toNat := by
  refine ⟨?_, ?_, ?_, ?_⟩
  · intro j hj
    exact ⟨canonical_ofJson hj, namesUnique_ofJson hj, toJson_ofJson hj⟩
  · intro v hv
    exact ⟨ofJson_toJson hv, wellFormed_toJson⟩
  · intro v
    exact (toJson_ofJson_toJson v).symm
  · intro n
    rw [← ofWideInt_ofUInt64]
    refine ⟨rfl, toJson_ofWideInt _, ?_⟩
    intro m hm
    have hcanonical := canonical_ofWideInt (WideInt.ofUInt64 n)
    rw [hm] at hcanonical
    exact of_decide_eq_true (hcanonical _ (.self _))

/-- A document with the greatest whole number, a negative zero and an empty name. -/
def deepDocument : Json :=
  .object ⟨[("b", .array [.int (WideInt.ofUInt64 0xffffffffffffffff),
      .float ⟨0x8000000000000000⟩, .null]),
    ("a", .object ⟨[("", .int (WideInt.ofInt64 (-1))), ("x", .float ⟨0x3ff0000000000000⟩)]⟩)]⟩

theorem documents_correspond_deepDocument :
    deepDocument.WellFormed ∧ (ofJson deepDocument).Canonical ∧
      (ofJson deepDocument).toJson = deepDocument ∧
      ofJson (ofJson deepDocument).toJson = ofJson deepDocument ∧
      (Value.uint 7).toJson = (Value.int 7).toJson ∧ ofJson (Value.uint 7).toJson = .int 7 := by
  have hwell : deepDocument.WellFormed := by
    simp [deepDocument, Json.WellFormed, Json.WellFormedItems, Json.WellFormedBag,
      Json.WellFormedEntries, Bag.Unique, Bag.names]
    decide
  obtain ⟨hdocuments, hvalues, htrip, hunsigned⟩ := documents_correspond
  obtain ⟨hcanonical, -, hback⟩ := hdocuments deepDocument hwell
  have hsmall : ofJson (Value.uint 7).toJson = .int 7 := (hunsigned 7).1
  have hsame := htrip (.uint 7)
  rw [hsmall] at hsame
  exact ⟨hwell, hcanonical, hback, (hvalues _ hcanonical).1, hsame, hsmall⟩

end Value

end ResourceSql
