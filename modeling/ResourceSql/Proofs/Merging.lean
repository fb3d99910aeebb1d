import ResourceSql.Proofs.Bag
import ResourceSql.Value.Overlay
import ResourceSql.Value.Within

/-!
# Merging place by place

A change of an object is carried out by setting places, one after the other.  Each
of them is in an object that is present, none of them is inside another, and
together they have the effect of laying the change over the object.
-/

namespace ResourceSql

/-- Neither path leads through the other. -/
def JsonPath.Apart (p q : JsonPath) : Prop := ¬p <+: q ∧ ¬q <+: p

/-- Attributes after values are set at places, one after the other. -/
def Attributes.setPlaces (b : Attributes) (places : List (JsonPath × Value)) : Attributes :=
  places.foldl (fun acc place => acc.setAt place.1 place.2) b

/-- A place within the object under a name. -/
def Value.under (name : String) (place : JsonPath × Value) : JsonPath × Value :=
  (name :: place.1, place.2)

namespace JsonPath.Apart

theorem cons {name other : String} {p q : JsonPath} (h : name = other → p.Apart q) :
    Apart (name :: p) (other :: q) := by
  constructor
  · intro hprefix
    obtain ⟨heq, hprefix⟩ := List.cons_prefix_cons.mp hprefix
    exact (h heq).1 hprefix
  · intro hprefix
    obtain ⟨heq, hprefix⟩ := List.cons_prefix_cons.mp hprefix
    exact (h heq.symm).2 hprefix

theorem ne {p q : JsonPath} (h : p.Apart q) : p ≠ q := by
  rintro rfl
  exact h.1 (List.prefix_refl p)

end JsonPath.Apart

/-! ## Places relative to their object -/

namespace Value

/-- Either a change goes on inside an object, or it is put in as it is. -/
theorem meets_object_or (change : Value) (present : Option Value) :
    (∃ members inner, change = .object members ∧ present = some (.object inner)) ∨
      ∀ members inner, change = .object members → present = some (.object inner) → False := by
  by_cases h : ∃ members inner, change = .object members ∧ present = some (.object inner)
  · exact Or.inl h
  · exact Or.inr fun members inner hchange hpresent => h ⟨members, inner, hchange, hpresent⟩

/-- Places within an object are places of the object with the way to it before them. -/
theorem placesInBag_append (changes : Bag Value) (path : JsonPath) (present : Bag Value) :
    placesInBag path changes present =
      (placesInBag [] changes present).map fun place => (path ++ place.1, place.2) := by
  induction changes using bagInduction generalizing path present with
  | step changes ih =>
      obtain ⟨entries⟩ := changes
      unfold placesInBag
      induction entries with
      | nil => rfl
      | cons entry rest ihrest =>
          obtain ⟨name, change⟩ := entry
          have hrest := ihrest fun entry hmem => ih entry (List.mem_cons_of_mem _ hmem)
          have hfirst : change.places (path ++ [name]) (present.get? name) =
              (change.places [name] (present.get? name)).map
                fun place => (path ++ place.1, place.2) := by
            rcases change.meets_object_or (present.get? name) with
              ⟨members, inner, rfl, hinner⟩ | hleaf
            · have hmembers := ih (name, .object members) (by simp) members rfl
              rw [hinner, places, places, hmembers (path ++ [name]), hmembers [name]]
              simp [List.map_map, Function.comp_def]
            · rw [places.eq_2 _ _ _ hleaf, places.eq_2 _ _ _ hleaf]
              rfl
          rw [placesOfEntries, placesOfEntries, hrest, hfirst, List.map_append, List.nil_append]

/-- The places of a change of an object are those of the object, under its name. -/
theorem places_of_object {name : String} {members inner present : Bag Value}
    (h : present.get? name = some (.object inner)) :
    places [name] (.object members) (present.get? name) =
      (placesInBag [] members inner).map (under name) := by
  rw [h, places, placesInBag_append]
  rfl

end Value

/-! ## Setting places -/

namespace Attributes

theorem setAt_cons {b inner : Attributes} {name : String}
    (h : b.get? name = some (.object inner)) {path : JsonPath} (hpath : path ≠ [])
    (value : Value) :
    b.setAt (name :: path) value = b.insert name (.object (inner.setAt path value)) := by
  obtain ⟨last, hlast⟩ := Option.ne_none_iff_exists'.mp fun hnone =>
    hpath (List.getLast?_eq_none_iff.mp hnone)
  have hdrop : (name :: path).dropLast = name :: path.dropLast := List.dropLast_cons_of_ne_nil hpath
  unfold setAt
  rw [hlast, List.getLast?_cons, hlast, hdrop]
  simp [modifyAt, h]

/-- To set places under a name is to set them in the object under it. -/
theorem setPlaces_under {b inner : Attributes} {name : String}
    (h : b.get? name = some (.object inner)) {places : List (JsonPath × Value)}
    (hplaces : ∀ place ∈ places, place.1 ≠ []) :
    b.setPlaces (places.map (Value.under name)) =
      b.insert name (.object (inner.setPlaces places)) := by
  induction places generalizing b inner with
  | nil => exact (Bag.insert_eq_self h).symm
  | cons place places ih =>
      have hfirst := setAt_cons h (hplaces place (by simp)) place.2
      have hget := Bag.get?_insert_self b name (.object (inner.setAt place.1 place.2))
      have hrest := ih hget fun other hmem => hplaces other (List.mem_cons_of_mem _ hmem)
      calc b.setPlaces ((place :: places).map (Value.under name))
          = (b.setAt (name :: place.1) place.2).setPlaces (places.map (Value.under name)) := rfl
        _ = (b.insert name (.object (inner.setAt place.1 place.2))).insert name
              (.object ((inner.setAt place.1 place.2).setPlaces places)) := by
            rw [hfirst, hrest]
        _ = b.insert name (.object (inner.setPlaces (place :: places))) :=
            Bag.insert_insert b name _ _

end Attributes

/-! ## The places of a change -/

namespace Value

variable {changes present : Bag Value}

/-- The places of a change under a name are behind that name. -/
theorem exists_cons_of_mem_places {name : String} {change : Value}
    {place : JsonPath × Value} (h : place ∈ change.places [name] (present.get? name)) :
    ∃ rest, place.1 = name :: rest := by
  rcases change.meets_object_or (present.get? name) with ⟨members, inner, rfl, hinner⟩ | hleaf
  · rw [places_of_object hinner] at h
    obtain ⟨below, -, rfl⟩ := List.mem_map.mp h
    exact ⟨below.1, rfl⟩
  · rw [places.eq_2 _ _ _ hleaf] at h
    rw [List.mem_singleton.mp h]
    exact ⟨[], rfl⟩

theorem exists_cons_of_mem_placesOfEntries {entries : List (String × Value)}
    {place : JsonPath × Value} (h : place ∈ placesOfEntries [] entries present) :
    ∃ name ∈ entries.map (·.1), ∃ rest, place.1 = name :: rest := by
  induction entries with
  | nil => cases h
  | cons entry rest ih =>
      rcases List.mem_append.mp h with h | h
      · exact ⟨entry.1, by simp, exists_cons_of_mem_places h⟩
      · obtain ⟨name, hname, hplace⟩ := ih h
        exact ⟨name, List.mem_cons_of_mem _ hname, hplace⟩

/-- Every place of a change is in a member that the change names. -/
theorem exists_cons_of_mem_placesInBag {place : JsonPath × Value}
    (h : place ∈ placesInBag [] changes present) :
    ∃ name ∈ changes.names, ∃ rest, place.1 = name :: rest := by
  obtain ⟨entries⟩ := changes
  exact exists_cons_of_mem_placesOfEntries h

theorem ne_nil_of_mem_placesInBag {place : JsonPath × Value}
    (h : place ∈ placesInBag [] changes present) : place.1 ≠ [] := by
  obtain ⟨name, -, rest, hplace⟩ := exists_cons_of_mem_placesInBag h
  rw [hplace]
  exact List.cons_ne_nil name rest

/-- Places depend on what is present under the names of the change only. -/
theorem placesOfEntries_congr {entries : List (String × Value)} {b : Bag Value}
    (h : ∀ name ∈ entries.map (·.1), b.get? name = present.get? name) :
    placesOfEntries [] entries b = placesOfEntries [] entries present := by
  induction entries with
  | nil => rfl
  | cons entry rest ih =>
      obtain ⟨name, change⟩ := entry
      have hrest := ih fun other hmem => h other (List.mem_cons_of_mem _ hmem)
      rw [placesOfEntries, placesOfEntries, hrest, h name (by simp)]

/-- The places of a change are apart from each other. -/
theorem pairwise_apart_placesInBag (h : NamesUnique (.object changes)) (present : Bag Value) :
    (placesInBag [] changes present).Pairwise fun p q => p.1.Apart q.1 := by
  induction changes using bagInduction generalizing present with
  | step changes ih =>
      obtain ⟨entries⟩ := changes
      unfold placesInBag
      induction entries with
      | nil => exact List.Pairwise.nil
      | cons entry rest ihrest =>
          obtain ⟨name, change⟩ := entry
          obtain ⟨hname, hchange, hunique⟩ := namesUnique_cons_iff.mp h
          have hrest := ihrest (fun entry hmem => ih entry (List.mem_cons_of_mem _ hmem)) hunique
          have hfirst : (change.places [name] (present.get? name)).Pairwise
              fun p q => p.1.Apart q.1 := by
            rcases change.meets_object_or (present.get? name) with
              ⟨members, inner, rfl, hinner⟩ | hleaf
            · have hmembers := ih (name, .object members) (by simp) members rfl
                hchange inner
              rw [places_of_object hinner, List.pairwise_map]
              exact hmembers.imp fun hapart => JsonPath.Apart.cons fun _ => hapart
            · rw [places.eq_2 _ _ _ hleaf]
              exact List.pairwise_singleton _ _
          rw [placesOfEntries]
          refine List.pairwise_append.mpr ⟨hfirst, hrest, ?_⟩
          intro p hp q hq
          obtain ⟨below, hbelow⟩ := exists_cons_of_mem_places hp
          obtain ⟨other, hother, tail, htail⟩ := exists_cons_of_mem_placesOfEntries hq
          rw [hbelow, htail]
          apply JsonPath.Apart.cons
          rintro rfl
          exact absurd hother hname

/-- Every place of a change is in an object that is present. -/
theorem objectAt?_of_mem_placesInBag {place : JsonPath × Value}
    (h : place ∈ placesInBag [] changes present) :
    ∃ inner, Attributes.objectAt? present place.1.dropLast = some inner := by
  induction changes using bagInduction generalizing present place with
  | step changes ih =>
      obtain ⟨entries⟩ := changes
      unfold placesInBag at h
      induction entries with
      | nil => cases h
      | cons entry rest ihrest =>
          obtain ⟨name, change⟩ := entry
          rcases List.mem_append.mp h with h | h
          · rcases change.meets_object_or (present.get? name) with
              ⟨members, inner, rfl, hinner⟩ | hleaf
            · rw [List.nil_append, places_of_object hinner] at h
              obtain ⟨below, hbelow, rfl⟩ := List.mem_map.mp h
              obtain ⟨parent, hparent⟩ := ih (name, .object members) (by simp) members rfl hbelow
              have hdrop : (name :: below.1).dropLast = name :: below.1.dropLast :=
                List.dropLast_cons_of_ne_nil (ne_nil_of_mem_placesInBag hbelow)
              refine ⟨parent, ?_⟩
              simpa [under, hdrop, Attributes.objectAt?, hinner] using hparent
            · rw [places.eq_2 _ _ _ hleaf] at h
              rw [List.mem_singleton.mp h]
              exact ⟨present, rfl⟩
          · exact ihrest (fun entry hmem => ih entry (List.mem_cons_of_mem _ hmem)) h

/-- To set the places of a change is to lay the change over what is present. -/
theorem setPlaces_placesInBag (h : NamesUnique (.object changes)) (present : Attributes) :
    present.setPlaces (placesInBag [] changes present) = present.overlay changes := by
  induction changes using bagInduction generalizing present with
  | step changes ih =>
      obtain ⟨entries⟩ := changes
      unfold placesInBag Attributes.overlay overlaidBag
      induction entries generalizing present with
      | nil => rfl
      | cons entry rest ihrest =>
          obtain ⟨name, change⟩ := entry
          obtain ⟨hname, hchange, hunique⟩ := namesUnique_cons_iff.mp h
          have hfirst : present.setPlaces (change.places [name] (present.get? name)) =
              present.insert name (change.overlaid (present.get? name)) := by
            rcases change.meets_object_or (present.get? name) with
              ⟨members, inner, rfl, hinner⟩ | hleaf
            · have hmembers := ih (name, .object members) (by simp) members rfl
                hchange inner
              rw [places_of_object hinner, Attributes.setPlaces_under hinner
                fun place hmem => ne_nil_of_mem_placesInBag hmem, hmembers, hinner]
              rfl
            · rw [places.eq_2 _ _ _ hleaf, overlaid.eq_2 _ _ hleaf]
              rfl
          have hcongr : placesOfEntries [] rest present =
              placesOfEntries [] rest
                (present.insert name (change.overlaid (present.get? name))) := by
            symm
            apply placesOfEntries_congr
            intro other hother
            apply Bag.get?_insert_of_ne
            rintro rfl
            exact hname hother
          have hrest := ihrest (present.insert name (change.overlaid (present.get? name)))
            (fun entry hmem => ih entry (List.mem_cons_of_mem _ hmem)) hunique
          rw [placesOfEntries, overlaidEntries, ← hrest, ← hcongr, ← hfirst]
          exact List.foldl_append

end Value

end ResourceSql
