import ResourceSql.Value.Basic

/-!
# Parts of a value

The values within a value, itself among them, and what is said of all of them: that
no object gives a name twice, that no number is a NaN, and that all numbers are finite.
-/

namespace ResourceSql

namespace Value

/-- The first value is a part of the second one. -/
inductive Within : Value → Value → Prop
  /-- A value is a part of itself. -/
  | self (v : Value) : Within v v
  /-- The parts of an item are parts of the list. -/
  | item {part v : Value} {items : List Value} (hmem : v ∈ items) (hpart : Within part v) :
    Within part (.list items)
  /-- The parts of a member are parts of the object. -/
  | member {part : Value} {entry : String × Value} {members : Bag Value}
    (hmem : entry ∈ members.entries) (hpart : Within part entry.2) :
    Within part (.object members)

/-- No object within the value gives a name twice. -/
def NamesUnique (v : Value) : Prop := ∀ members, Within (.object members) v → members.Unique

/-- No number within the value is a NaN. -/
def NaNFree (v : Value) : Prop := ∀ x, Within (.float x) v → x.isNaN = false

/-- No number within the value is an infinity or a NaN. -/
def FloatsFinite (v : Value) : Prop := ∀ x, Within (.float x) v → x.isFinite = true

/-- Objects, and nothing else, within objects. -/
def Leafless (v : Value) : Prop := ∀ part, Within part v → part.isObject = true

/-- Induction over the parts of a value. -/
@[elab_as_elim]
theorem partsInduction {motive : Value → Prop}
    (object : ∀ members : Bag Value, (∀ entry ∈ members.entries, motive entry.2) →
      motive (.object members))
    (list : ∀ items : List Value, (∀ v ∈ items, motive v) → motive (.list items))
    (atom : ∀ v : Value, (∀ members, v ≠ .object members) → (∀ items, v ≠ .list items) →
      motive v) :
    ∀ v, motive v
  | .object ⟨entries⟩ =>
    object ⟨entries⟩ fun entry hentry =>
      have : sizeOf entry < sizeOf entries := List.sizeOf_lt_of_mem hentry
      partsInduction object list atom entry.2
  | .list items =>
    list items fun v hv =>
      have : sizeOf v < sizeOf items := List.sizeOf_lt_of_mem hv
      partsInduction object list atom v
  | .null => atom _ nofun nofun
  | .bool _ => atom _ nofun nofun
  | .int _ => atom _ nofun nofun
  | .uint _ => atom _ nofun nofun
  | .float _ => atom _ nofun nofun
  | .text _ => atom _ nofun nofun
  | .uuid _ => atom _ nofun nofun
  | .date _ => atom _ nofun nofun
  | .dateTime _ => atom _ nofun nofun
  | .timestamp _ => atom _ nofun nofun
termination_by v => sizeOf v
decreasing_by
  · obtain ⟨name, v⟩ := entry
    simp only [Prod.mk.sizeOf_spec, Value.object.sizeOf_spec, Bag.mk.sizeOf_spec] at *
    omega
  · simp only [Value.list.sizeOf_spec]
    omega

/-- Induction over objects within objects. -/
@[elab_as_elim]
theorem bagInduction {motive : Bag Value → Prop}
    (step : ∀ members : Bag Value,
      (∀ entry ∈ members.entries, ∀ inner, entry.2 = .object inner → motive inner) →
        motive members)
    (members : Bag Value) : motive members := by
  have hvalues : ∀ v : Value, ∀ inner, v = .object inner → motive inner := by
    intro v
    induction v using partsInduction with
    | object members ih =>
      intro inner hinner
      cases hinner
      exact step members ih
    | list items ih => exact nofun
    | atom v hobject hlist => exact fun inner hinner => absurd hinner (hobject inner)
  exact hvalues (.object members) members rfl

/-- A value that is neither an object nor a list has no other parts. -/
theorem eq_of_within_atom {part v : Value} (hobject : ∀ members, v ≠ .object members)
    (hlist : ∀ items, v ≠ .list items) (h : Within part v) : part = v := by
  cases h with
  | self => rfl
  | item => exact absurd rfl (hlist _)
  | member => exact absurd rfl (hobject _)

theorem namesUnique_atom {v : Value} (hobject : ∀ members, v ≠ .object members)
    (hlist : ∀ items, v ≠ .list items) : NamesUnique v := by
  intro members hmembers
  exact absurd (eq_of_within_atom hobject hlist hmembers).symm (hobject members)

theorem nanFree_atom {v : Value} (hobject : ∀ members, v ≠ .object members)
    (hlist : ∀ items, v ≠ .list items) (hfloat : ∀ x, v ≠ .float x) : NaNFree v := by
  intro x hx
  exact absurd (eq_of_within_atom hobject hlist hx).symm (hfloat x)

section Parts

variable {members : Bag Value} {items : List Value}

theorem within_object_iff {part : Value} :
    Within part (.object members) ↔
      part = .object members ∨ ∃ entry ∈ members.entries, Within part entry.2 := by
  constructor
  · intro h
    cases h with
    | self => exact Or.inl rfl
    | member hmem hpart => exact Or.inr ⟨_, hmem, hpart⟩
  · rintro (rfl | ⟨entry, hmem, hpart⟩)
    · exact .self _
    · exact .member hmem hpart

theorem within_list_iff {part : Value} :
    Within part (.list items) ↔ part = .list items ∨ ∃ v ∈ items, Within part v := by
  constructor
  · intro h
    cases h with
    | self => exact Or.inl rfl
    | item hmem hpart => exact Or.inr ⟨_, hmem, hpart⟩
  · rintro (rfl | ⟨v, hmem, hpart⟩)
    · exact .self _
    · exact .item hmem hpart

/-- What is said of all parts of an object is said of itself and of all parts of its
members. -/
theorem forall_within_object_iff {p : Value → Prop} :
    (∀ part, Within part (.object members) → p part) ↔
      p (.object members) ∧ ∀ entry ∈ members.entries, ∀ part, Within part entry.2 → p part := by
  constructor
  · intro h
    exact ⟨h _ (.self _), fun entry hmem part hpart => h part (.member hmem hpart)⟩
  · rintro ⟨hself, hentries⟩ part hpart
    rcases within_object_iff.mp hpart with rfl | ⟨entry, hmem, hinner⟩
    · exact hself
    · exact hentries entry hmem part hinner

/-- What is said of all parts of a list is said of itself and of all parts of its items. -/
theorem forall_within_list_iff {p : Value → Prop} :
    (∀ part, Within part (.list items) → p part) ↔
      p (.list items) ∧ ∀ v ∈ items, ∀ part, Within part v → p part := by
  constructor
  · intro h
    exact ⟨h _ (.self _), fun v hmem part hpart => h part (.item hmem hpart)⟩
  · rintro ⟨hself, hitems⟩ part hpart
    rcases within_list_iff.mp hpart with rfl | ⟨v, hmem, hinner⟩
    · exact hself
    · exact hitems v hmem part hinner

theorem NamesUnique.unique (h : NamesUnique (.object members)) : members.Unique :=
  h members (.self _)

theorem NamesUnique.of_mem (h : NamesUnique (.object members)) {entry : String × Value}
    (hmem : entry ∈ members.entries) : NamesUnique entry.2 :=
  fun inner hinner => h inner (.member hmem hinner)

theorem namesUnique_object_iff :
    NamesUnique (.object members) ↔
      members.Unique ∧ ∀ entry ∈ members.entries, NamesUnique entry.2 := by
  constructor
  · intro h
    exact ⟨h.unique, fun entry hmem => h.of_mem hmem⟩
  · rintro ⟨hunique, hentries⟩ inner hinner
    rcases within_object_iff.mp hinner with heq | ⟨entry, hmem, hpart⟩
    · cases heq
      exact hunique
    · exact hentries entry hmem inner hpart

theorem namesUnique_cons_iff {name : String} {v : Value} {rest : List (String × Value)} :
    NamesUnique (.object ⟨(name, v) :: rest⟩) ↔
      name ∉ rest.map (·.1) ∧ NamesUnique v ∧ NamesUnique (.object ⟨rest⟩) := by
  simp only [namesUnique_object_iff, Bag.Unique, Bag.names, List.map_cons, List.nodup_cons,
    List.forall_mem_cons]
  constructor
  · rintro ⟨⟨hname, hnodup⟩, hfirst, hrest⟩
    exact ⟨hname, hfirst, hnodup, hrest⟩
  · rintro ⟨hname, hfirst, hnodup, hrest⟩
    exact ⟨⟨hname, hnodup⟩, hfirst, hrest⟩

theorem namesUnique_list_iff : NamesUnique (.list items) ↔ ∀ v ∈ items, NamesUnique v := by
  constructor
  · intro h v hmem members hmembers
    exact h members (.item hmem hmembers)
  · intro h members hmembers
    rcases within_list_iff.mp hmembers with heq | ⟨v, hmem, hpart⟩
    · cases heq
    · exact h v hmem members hpart

theorem nanFree_object_iff :
    NaNFree (.object members) ↔ ∀ entry ∈ members.entries, NaNFree entry.2 := by
  constructor
  · intro h entry hmem x hx
    exact h x (.member hmem hx)
  · intro h x hx
    rcases within_object_iff.mp hx with heq | ⟨entry, hmem, hpart⟩
    · cases heq
    · exact h entry hmem x hpart

theorem nanFree_list_iff : NaNFree (.list items) ↔ ∀ v ∈ items, NaNFree v := by
  constructor
  · intro h v hmem x hx
    exact h x (.item hmem hx)
  · intro h x hx
    rcases within_list_iff.mp hx with heq | ⟨v, hmem, hpart⟩
    · cases heq
    · exact h v hmem x hpart

theorem floatsFinite_object_iff :
    FloatsFinite (.object members) ↔ ∀ entry ∈ members.entries, FloatsFinite entry.2 := by
  constructor
  · intro h entry hmem x hx
    exact h x (.member hmem hx)
  · intro h x hx
    rcases within_object_iff.mp hx with heq | ⟨entry, hmem, hpart⟩
    · cases heq
    · exact h entry hmem x hpart

theorem floatsFinite_list_iff : FloatsFinite (.list items) ↔ ∀ v ∈ items, FloatsFinite v := by
  constructor
  · intro h v hmem x hx
    exact h x (.item hmem hx)
  · intro h x hx
    rcases within_list_iff.mp hx with heq | ⟨v, hmem, hpart⟩
    · cases heq
    · exact h v hmem x hpart

theorem leafless_object_iff :
    Leafless (.object members) ↔ ∀ entry ∈ members.entries, Leafless entry.2 :=
  forall_within_object_iff.trans (and_iff_right rfl)

end Parts

end Value

/-!
## The order of members

Two values can differ in nothing but the order in which their objects name their
members.  The members of an object, and those of the objects among them, may stand in
another order; what stands inside a list has to be the same.
-/

/-- The first value becomes the second one if members of objects outside of lists are put
in another order. -/
inductive Value.Reordered : Value → Value → Prop
  /-- A value that is no object stays as it is. -/
  | same {v : Value} (hv : v.isObject = false) : Reordered v v
  /-- Objects have the same names, each of them once, with reordered values. -/
  | object {members others : Bag Value} (hunique : members.Unique)
    (hnames : members.names.Perm others.names)
    (hvalues : ∀ entry ∈ members.entries, ∀ other ∈ others.entries, entry.1 = other.1 →
      Reordered entry.2 other.2) :
    Reordered (.object members) (.object others)

/-- Attributes that differ in the order of members only. -/
def Attributes.Reordered (before after : Attributes) : Prop :=
  Value.Reordered (.object before) (.object after)

end ResourceSql
