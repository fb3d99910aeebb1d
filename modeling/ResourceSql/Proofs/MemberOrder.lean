import Mathlib.Data.List.Basic
import ResourceSql.Compilation
import ResourceSql.Proofs.Overlay
import ResourceSql.Value.Within

/-!
# Updates do not see the order of members

Comparison does see it: two objects with the same members in another order are not equal,
so the changes between them hold an object where there would be none otherwise.  Such an
object has no place to set, at any depth, and is left out of the statement.  Hence the
places of a change are the same whichever order the present members stand in, and so are
the assignments of an update and its text.
-/

namespace ResourceSql

namespace Value

variable {members others : Bag Value}

namespace Reordered

theorem names_perm (h : Reordered (.object members) (.object others)) :
    members.names.Perm others.names := by
  cases h with
  | same hv => cases hv
  | object hunique hnames hvalues => exact hnames

theorem unique (h : Reordered (.object members) (.object others)) : members.Unique := by
  cases h with
  | same hv => cases hv
  | object hunique hnames hvalues => exact hunique

/-- Under each name both objects have reordered values, or none has a value. -/
theorem get?_rel (h : Reordered (.object members) (.object others)) (name : String) :
    Option.Rel Reordered (members.get? name) (others.get? name) := by
  have hsome : (members.get? name).isSome = (others.get? name).isSome := by
    rw [Bool.eq_iff_iff, Bag.isSome_get?_iff, Bag.isSome_get?_iff, h.names_perm.mem_iff]
  cases h with
  | same hv => cases hv
  | object hunique hnames hvalues =>
      cases hmember : members.get? name with
      | none =>
          cases hother : others.get? name with
          | none => exact .none
          | some w => simp [hmember, hother] at hsome
      | some v =>
          cases hother : others.get? name with
          | none => simp [hmember, hother] at hsome
          | some w =>
              exact .some (hvalues _ (Bag.mem_of_get?_eq_some hmember) _
                (Bag.mem_of_get?_eq_some hother) rfl)

/-- What does not see the order of members in an object does not see it in what is found
under a name. -/
theorem eq_of_get? {β : Type} {f : Option Value → β}
    (h : Reordered (.object members) (.object others)) (name : String)
    (hf : ∀ inner inner', Reordered (.object inner) (.object inner') →
      f (some (.object inner)) = f (some (.object inner'))) :
    f (members.get? name) = f (others.get? name) := by
  have hrel := h.get?_rel name
  generalize members.get? name = old at hrel ⊢
  generalize others.get? name = old' at hrel ⊢
  cases hrel with
  | none => rfl
  | some hvalue =>
      cases hvalue with
      | same => rfl
      | object hunique hnames hvalues => exact hf _ _ (.object hunique hnames hvalues)

theorem symm {v w : Value} (h : Reordered v w) : Reordered w v := by
  induction h with
  | same hv => exact .same hv
  | object hunique hnames hvalues ih =>
      refine .object (hnames.nodup hunique) hnames.symm ?_
      intro other hother entry hentry hname
      exact ih entry hentry other hother hname.symm

theorem nanFree {v w : Value} (h : Reordered v w) (hv : NaNFree v) : NaNFree w := by
  induction h with
  | same => exact hv
  | object hunique hnames hvalues ih =>
      rw [nanFree_object_iff] at hv ⊢
      intro other hother
      obtain ⟨entry, hentry, hname⟩ :=
        List.mem_map.mp (hnames.mem_iff.mpr (List.mem_map_of_mem hother))
      exact ih entry hentry other hother hname (hv entry hentry)

end Reordered

/-! ## Places -/

/-- The places of a change do not depend on the order of what is present. -/
theorem placesInBag_reordered (h : Reordered (.object members) (.object others))
    (path : JsonPath) (changes : Bag Value) :
    placesInBag path changes members = placesInBag path changes others := by
  induction changes using bagInduction generalizing path members others with
  | step changes ih =>
      obtain ⟨entries⟩ := changes
      unfold placesInBag
      induction entries with
      | nil => rfl
      | cons entry rest ihrest =>
          obtain ⟨name, change⟩ := entry
          have hrest := ihrest fun entry hmem => ih entry (List.mem_cons_of_mem _ hmem)
          have hfirst : change.places (path ++ [name]) (members.get? name) =
              change.places (path ++ [name]) (others.get? name) := by
            apply h.eq_of_get? name
            intro inner inner' hinner
            cases change with
            | object changes =>
                exact ih (name, .object changes) (by simp) changes rfl hinner _
            | _ => rfl
          rw [placesOfEntries, placesOfEntries, hfirst, hrest]

theorem names_eq_of_equalBags (h : equalBags members others = true) :
    members.names = others.names := by
  obtain ⟨as⟩ := members
  obtain ⟨bs⟩ := others
  unfold equalBags at h
  induction as generalizing bs with
  | nil =>
      cases bs with
      | nil => rfl
      | cons entry rest => simp [equalEntries] at h
  | cons entry as ih =>
      obtain ⟨name, v⟩ := entry
      cases bs with
      | nil => simp [equalEntries] at h
      | cons other bs =>
          obtain ⟨name', w⟩ := other
          simp only [equalEntries, Bool.and_eq_true, beq_iff_eq] at h
          exact congrArg₂ List.cons h.1.1 (ih bs h.2)

theorem bagChanges_eq_empty (hunique : members.Unique) (h : equalBags members others = true) :
    bagChanges others members = ⟨[]⟩ := by
  have hothers : others.Unique := by
    unfold Bag.Unique
    rw [← names_eq_of_equalBags h]
    exact hunique
  have hequal := exists_equal_of_equalBags h hothers
  obtain ⟨entries⟩ := others
  rw [bagChanges]
  congr 1
  rw [List.eq_nil_iff_forall_not_mem]
  intro change hchange
  obtain ⟨entry, hentry, hdiffers, -⟩ := mem_entryChanges_iff.mp hchange
  obtain ⟨old, hold, hsame⟩ := hequal entry hentry
  simp [hold, hsame] at hdiffers

/-- The places of the changes from `before` to `after`. -/
def placesSince (path : JsonPath) (after before : Bag Value) : List (JsonPath × Value) :=
  placesInBag path (bagChanges after before) before

/-- The places of the change to a value, if there is one. -/
def placesOfChange (path : JsonPath) (value : Value) (old : Option Value) :
    List (JsonPath × Value) :=
  if old.any (·.equal value) then [] else (value.changeFrom old).places path old

theorem placesSince_eq_flatMap (path : JsonPath) (entries : List (String × Value))
    (before : Bag Value) :
    placesSince path ⟨entries⟩ before = entries.flatMap fun (name, value) =>
      placesOfChange (path ++ [name]) value (before.get? name) := by
  unfold placesSince
  rw [bagChanges, placesInBag]
  induction entries with
  | nil => rfl
  | cons entry rest ih =>
      obtain ⟨name, value⟩ := entry
      rw [entryChanges, List.flatMap_cons, ← ih]
      dsimp only
      unfold placesOfChange
      split_ifs with hold
      · rfl
      · rw [placesOfEntries]

theorem equal_object_eq_false (before : Bag Value) {value : Value}
    (hvalue : ∀ after, value ≠ .object after) : (Value.object before).equal value = false := by
  cases value with
  | object after => exact absurd rfl (hvalue after)
  | _ => simp [equal]

theorem placesOfChange_of_ne (path : JsonPath) (before : Bag Value) {value : Value}
    (hvalue : ∀ after, value ≠ .object after) :
    placesOfChange path value (some (.object before)) = [(path, value)] := by
  have hleaf : ∀ after inner, value = .object after →
      some (Value.object before) = some (.object inner) → False :=
    fun after inner hafter _ => hvalue after hafter
  rw [placesOfChange, Option.any_some, equal_object_eq_false before hvalue,
    if_neg Bool.false_ne_true, changeFrom.eq_2 _ _ hleaf, places.eq_2 _ _ _ hleaf]

/-- Between objects, the places are those of the changes inside, equal or not. -/
theorem placesOfChange_object (path : JsonPath) (after : Bag Value) {before : Bag Value}
    (hbefore : before.Unique) :
    placesOfChange path (.object after) (some (.object before)) =
      placesSince path after before := by
  unfold placesOfChange
  by_cases hequal : equalBags before after = true
  · have hsame : (some (Value.object before)).any (·.equal (.object after)) = true := by
      simpa [equal] using hequal
    rw [if_pos hsame, placesSince, bagChanges_eq_empty hbefore hequal]
    rfl
  · have hdiffers : ¬(some (Value.object before)).any (·.equal (.object after)) = true := by
      simpa [equal] using hequal
    rw [if_neg hdiffers, changeFrom, places]
    rfl

/-- The places of the changes to attributes do not depend on the order of the earlier
ones. -/
theorem placesSince_reordered (h : Reordered (.object members) (.object others))
    (path : JsonPath) (after : Bag Value) :
    placesSince path after members = placesSince path after others := by
  induction after using bagInduction generalizing path members others with
  | step after ih =>
      obtain ⟨entries⟩ := after
      rw [placesSince_eq_flatMap, placesSince_eq_flatMap]
      apply List.flatMap_congr
      intro entry hentry
      obtain ⟨name, value⟩ := entry
      dsimp only
      apply h.eq_of_get? (f := placesOfChange (path ++ [name]) value) name
      intro inner inner' hinner
      by_cases hvalue : ∃ after, value = .object after
      · obtain ⟨after, rfl⟩ := hvalue
        rw [placesOfChange_object _ _ hinner.unique, placesOfChange_object _ _ hinner.symm.unique]
        exact ih (name, .object after) hentry after rfl hinner _
      · rw [not_exists] at hvalue
        rw [placesOfChange_of_ne _ _ hvalue, placesOfChange_of_ne _ _ hvalue]

end Value

/-! ## Assignments -/

namespace Assignment

open Value

/-- The assignment that sets places in a column, if there is a place. -/
def ofPlaces? (column : String) (places : List (JsonPath × Value)) : Option Assignment :=
  if places.isEmpty then none else some (.merge column places)

/-- The assignment of the change to a value, if there is one. -/
def ofValue? (name : String) (value : Value) (old : Option Value) : Option Assignment :=
  if old.any (·.equal value) then none else ofChange? old name (value.changeFrom old)

theorem ofValue?_object (name : String) (after : Bag Value) {before : Bag Value}
    (hbefore : before.Unique) :
    ofValue? name (.object after) (some (.object before)) =
      ofPlaces? (StorageName.column name) (placesSince [] after before) := by
  rw [← placesOfChange_object [] after hbefore, placesOfChange, ofValue?]
  split_ifs
  · rfl
  · rw [changeFrom, places]
    rfl

theorem ofValue?_of_ne (name : String) (before : Bag Value) {value : Value}
    (hvalue : ∀ after, value ≠ .object after) :
    ofValue? name value (some (.object before)) =
      some (.whole (StorageName.column name) value) := by
  have hleaf : ∀ after inner, value = .object after →
      some (Value.object before) = some (.object inner) → False :=
    fun after inner hafter _ => hvalue after hafter
  rw [ofValue?, Option.any_some, equal_object_eq_false before hvalue,
    if_neg Bool.false_ne_true, changeFrom.eq_2 _ _ hleaf]
  cases value with
  | object after => exact absurd rfl (hvalue after)
  | _ => rfl

theorem ofChanges_changesSince (after before : Attributes) :
    ofChanges (some before) (after.changesSince before) =
      after.entries.filterMap fun (name, value) => ofValue? name value (before.get? name) := by
  obtain ⟨entries⟩ := after
  unfold ofChanges Attributes.changesSince
  rw [bagChanges]
  induction entries with
  | nil => rfl
  | cons entry rest ih =>
      obtain ⟨name, value⟩ := entry
      rw [entryChanges, List.filterMap_cons, ← ih]
      dsimp only
      unfold ofValue?
      split_ifs with hold
      · rfl
      · rw [List.filterMap_cons]
        rfl

variable {before before' : Attributes}

theorem ofChanges_changesSince_reordered (h : before.Reordered before') (after : Attributes) :
    ofChanges (some before) (after.changesSince before) =
      ofChanges (some before') (after.changesSince before') := by
  rw [ofChanges_changesSince, ofChanges_changesSince]
  apply List.filterMap_congr
  intro entry hentry
  obtain ⟨name, value⟩ := entry
  apply h.eq_of_get? (f := ofValue? name value) name
  intro inner inner' hinner
  by_cases hvalue : ∃ after, value = .object after
  · obtain ⟨after, rfl⟩ := hvalue
    rw [ofValue?_object _ _ hinner.unique, ofValue?_object _ _ hinner.symm.unique,
      placesSince_reordered hinner]
  · rw [not_exists] at hvalue
    rw [ofValue?_of_ne _ _ hvalue, ofValue?_of_ne _ _ hvalue]

theorem ofChanges_reordered (h : before.Reordered before') (changes : Attributes) :
    ofChanges (some before) changes = ofChanges (some before') changes := by
  apply List.filterMap_congr
  intro entry hentry
  obtain ⟨name, change⟩ := entry
  apply h.eq_of_get? (f := fun old => ofChange? old name change) name
  intro inner inner' hinner
  cases change with
  | object changes =>
      unfold ofChange?
      dsimp only
      rw [placesInBag_reordered hinner]
  | _ => rfl

/-- Where only the order of members is new, nothing is assigned. -/
theorem ofChanges_changesSince_eq_nil (h : before.Reordered before')
    (hnan : NaNFree (.object before)) :
    ofChanges (some before) (before'.changesSince before) = [] := by
  have hequal : equalBags before' before' = true := by
    have hself := equal_self (h.nanFree hnan)
    rwa [equal] at hself
  rw [ofChanges_changesSince_reordered h, Attributes.changesSince,
    bagChanges_eq_empty h.symm.unique hequal]
  rfl

end Assignment

/-! ## Updates -/

/-- An update is answered by its assignments, or refused if there are none. -/
theorem Request.statement_update {revision : Revision} {r : Resource} (changes : Attributes)
    (h : revision.changes r.attributes = .ok changes) (settings : Settings)
    (filter : Condition) :
    (Request.update revision filter).statement settings r =
      if (Assignment.ofChanges r.attributes changes).isEmpty then
        .error (.refused .nothingToSet)
      else .ok (.update r.table (Assignment.ofChanges r.attributes changes) filter) := by
  rw [Request.statement, h]
  rfl

/-- An update does not see the order of the members that are present, whether it is given by
a transformation or by changes.  A transformation that does no more than to put members in
another order has nothing to set. -/
theorem compile_update_reordered {before before' : Attributes} (h : before.Reordered before')
    (settings : Settings) (r : Resource) (filter : Condition) :
    (∀ transform transform' : Attributes → Attributes, transform before = transform' before' →
        compile settings { r with attributes := some before }
            (.update (.transformed transform) filter) =
          compile settings { r with attributes := some before' }
            (.update (.transformed transform') filter)) ∧
      (∀ changes : Attributes,
        compile settings { r with attributes := some before }
            (.update (.given changes) filter) =
          compile settings { r with attributes := some before' }
            (.update (.given changes) filter)) ∧
      (Value.NaNFree (.object before) → ∀ transform : Attributes → Attributes,
        transform before = before' →
          compile settings { r with attributes := some before }
            (.update (.transformed transform) filter) = .error (.refused .nothingToSet)) := by
  refine ⟨?_, ?_, ?_⟩
  · intro transform transform' hsame
    apply compile_eq_of_statement_eq
    rw [Request.statement_update ((transform before).changesSince before) rfl,
      Request.statement_update ((transform' before').changesSince before') rfl, hsame,
      Assignment.ofChanges_changesSince_reordered h]
    rfl
  · intro changes
    apply compile_eq_of_statement_eq
    rw [Request.statement_update changes rfl,
      Request.statement_update changes rfl, Assignment.ofChanges_reordered h]
    rfl
  · intro hnan transform hreorders
    have hrefused : (Request.update (.transformed transform) filter).statement settings
        { r with attributes := some before } = .error (.refused .nothingToSet) := by
      rw [Request.statement_update ((transform before).changesSince before) rfl,
        hreorders, Assignment.ofChanges_changesSince_eq_nil h hnan]
      rfl
    unfold compile
    rw [hrefused]
    rfl

/-- Attributes with an object inside an object. -/
def firstOrder : Attributes :=
  ⟨[("a", .object ⟨[("x", .int 1), ("y", .object ⟨[("p", .null), ("q", .text "t")]⟩)]⟩),
    ("b", .list [.object ⟨[("k", .int 1), ("l", .int 2)]⟩])]⟩

/-- The same attributes with the members in another order, except those in the list. -/
def secondOrder : Attributes :=
  ⟨[("b", .list [.object ⟨[("k", .int 1), ("l", .int 2)]⟩]),
    ("a", .object ⟨[("y", .object ⟨[("q", .text "t"), ("p", .null)]⟩), ("x", .int 1)]⟩)]⟩

/-- An update of a resource that has only attributes, where its identifier is 1. -/
def updated (attributes : Attributes) (revision : Revision) : Except Failure Compiled :=
  compile {} { typeName := "item", attributes := some attributes }
    (.update revision (.compare "id" .equals (.text "1") false))

theorem compile_update_firstOrder :
    firstOrder.Reordered secondOrder ∧ Value.NaNFree (.object firstOrder) ∧
      updated firstOrder (.transformed fun _ => ⟨[("a", .object ⟨[("x", .int 2)]⟩)]⟩) =
        updated secondOrder (.transformed fun _ => ⟨[("a", .object ⟨[("x", .int 2)]⟩)]⟩) ∧
      updated firstOrder (.given ⟨[("a", .object ⟨[("y", .null)]⟩)]⟩) =
        updated secondOrder (.given ⟨[("a", .object ⟨[("y", .null)]⟩)]⟩) ∧
      updated firstOrder (.transformed fun _ => secondOrder) =
        .error (.refused .nothingToSet) := by
  have hnull : Value.Reordered .null .null := .same rfl
  have hint : Value.Reordered (.int 1) (.int 1) := .same rfl
  have htext : Value.Reordered (.text "t") (.text "t") := .same rfl
  have hlist : ∀ items, Value.Reordered (.list items) (.list items) := fun _ => .same rfl
  have hinmost : Value.Reordered (.object ⟨[("p", .null), ("q", .text "t")]⟩)
      (.object ⟨[("q", .text "t"), ("p", .null)]⟩) :=
    .object (by simp [Bag.Unique, Bag.names]) (by decide) (by simp [hnull, htext])
  have hinner : Value.Reordered
      (.object ⟨[("x", .int 1), ("y", .object ⟨[("p", .null), ("q", .text "t")]⟩)]⟩)
      (.object ⟨[("y", .object ⟨[("q", .text "t"), ("p", .null)]⟩), ("x", .int 1)]⟩) :=
    .object (by simp [Bag.Unique, Bag.names]) (by decide) (by simp [hint, hinmost])
  have hreordered : firstOrder.Reordered secondOrder :=
    .object (by simp [firstOrder, Bag.Unique, Bag.names]) (by decide)
      (by simp [firstOrder, secondOrder, hlist, hinner])
  have hnan : Value.NaNFree (.object firstOrder) := by
    simp [firstOrder, Value.nanFree_object_iff, Value.nanFree_list_iff, Value.nanFree_atom]
  obtain ⟨htransformed, hgiven, hrefused⟩ := compile_update_reordered hreordered {}
    { typeName := "item" } (.compare "id" .equals (.text "1") false)
  exact ⟨hreordered, hnan, htransformed _ _ rfl, hgiven _, hrefused hnan _ rfl⟩

end ResourceSql
