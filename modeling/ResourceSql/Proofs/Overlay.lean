import ResourceSql.Proofs.Merging
import ResourceSql.Value.Change

/-!
# Changes as overlays

The changes between two bags of attributes, laid over the earlier one, give the later
one wherever it speaks and leave everything else as it was.  If no number is a NaN then
nothing is left to change.
-/

namespace ResourceSql

namespace Value

variable {after before result : Bag Value}

/-! ## Overlays name by name -/

theorem get?_overlaidEntries_of_notMem {entries : List (String × Value)} {b : Bag Value}
    {name : String} (h : name ∉ entries.map (·.1)) :
    (overlaidEntries entries b).get? name = b.get? name := by
  induction entries generalizing b with
  | nil => rfl
  | cons entry rest ih =>
      obtain ⟨hname, hrest⟩ := not_or.mp (List.mem_cons.not.mp h)
      rw [overlaidEntries, ih hrest]
      exact Bag.get?_insert_of_ne b hname _

theorem get?_overlaidEntries_of_mem {entries : List (String × Value)} {b : Bag Value}
    (hnodup : (entries.map (·.1)).Nodup) {entry : String × Value} (hmem : entry ∈ entries) :
    (overlaidEntries entries b).get? entry.1 = some (entry.2.overlaid (b.get? entry.1)) := by
  induction entries generalizing b with
  | nil => cases hmem
  | cons first rest ih =>
      obtain ⟨hfirst, hrest⟩ := List.nodup_cons.mp hnodup
      rw [overlaidEntries]
      rcases List.mem_cons.mp hmem with rfl | hmem
      · rw [get?_overlaidEntries_of_notMem hfirst]
        exact Bag.get?_insert_self b _ _
      · have hne : entry.1 ≠ first.1 := by
          intro heq
          exact hfirst (List.mem_map.mpr ⟨entry, hmem, heq⟩)
        rw [ih hrest hmem, Bag.get?_insert_of_ne b hne]

/-- Changes that are what they meet change nothing. -/
theorem overlaidBag_eq_self {changes b : Bag Value}
    (h : ∀ entry ∈ changes.entries, b.get? entry.1 = some (entry.2.overlaid (b.get? entry.1))) :
    overlaidBag changes b = b := by
  obtain ⟨entries⟩ := changes
  rw [overlaidBag]
  induction entries with
  | nil => rfl
  | cons entry rest ih =>
      have hfirst := h entry (by simp)
      rw [overlaidEntries, Bag.insert_eq_self hfirst]
      exact ih fun other hmem => h other (List.mem_cons_of_mem _ hmem)

/-! ## Changes name by name -/

theorem mem_entryChanges_iff {entries : List (String × Value)} {b : Bag Value}
    {change : String × Value} :
    change ∈ entryChanges entries b ↔
      ∃ entry ∈ entries, (b.get? entry.1).any (·.equal entry.2) = false ∧
        change = (entry.1, entry.2.changeFrom (b.get? entry.1)) := by
  induction entries with
  | nil => simp [entryChanges]
  | cons entry rest ih =>
      cases hold : (b.get? entry.1).any (·.equal entry.2) <;>
        simp [entryChanges, hold, ih]

theorem map_fst_entryChanges_sublist (entries : List (String × Value)) (b : Bag Value) :
    ((entryChanges entries b).map (·.1)).Sublist (entries.map (·.1)) := by
  induction entries with
  | nil => exact List.Sublist.refl []
  | cons entry rest ih =>
      unfold entryChanges
      dsimp only
      split_ifs
      · exact ih.cons entry.1
      · exact ih.cons_cons entry.1

/-- Changes to attributes with distinct names have distinct names. -/
theorem unique_bagChanges {after : Bag Value} (hafter : after.Unique) (before : Bag Value) :
    (bagChanges after before).Unique := by
  obtain ⟨entries⟩ := after
  rw [bagChanges]
  exact (map_fst_entryChanges_sublist entries before).nodup hafter

/-! ## Agreement -/

theorem agreesEntries_iff {entries : List (String × Value)} :
    AgreesEntries entries before result ↔
      ∀ entry ∈ entries, ∃ value, result.get? entry.1 = some value ∧
        entry.2.Agrees (before.get? entry.1) value := by
  induction entries with
  | nil => simp [AgreesEntries]
  | cons entry rest ih => rw [AgreesEntries, ih, List.forall_mem_cons]

theorem agreesBag_iff :
    AgreesBag after before result ↔
      (∀ entry ∈ after.entries, ∃ value, result.get? entry.1 = some value ∧
        entry.2.Agrees (before.get? entry.1) value) ∧
      ∀ name, name ∉ after.names → result.get? name = before.get? name := by
  obtain ⟨entries⟩ := after
  rw [AgreesBag, agreesEntries_iff]
  rfl

theorem agrees_object_iff {value : Value} :
    Agrees (.object after) (some (.object before)) value ↔
      ∃ members, value = .object members ∧ AgreesBag after before members := by
  rw [Agrees]

theorem exists_equal_of_equalBags (h : equalBags before after = true) (hunique : after.Unique) :
    ∀ entry ∈ after.entries, ∃ old, before.get? entry.1 = some old ∧
      old.equal entry.2 = true := by
  obtain ⟨bs⟩ := after
  obtain ⟨as⟩ := before
  unfold equalBags at h
  induction bs generalizing as with
  | nil =>
      intro entry hmem
      exact absurd hmem List.not_mem_nil
  | cons first rest ih =>
      obtain ⟨other, b⟩ := first
      cases as with
      | nil => simp [equalEntries] at h
      | cons head as =>
          obtain ⟨name, a⟩ := head
          simp only [equalEntries, Bool.and_eq_true, beq_iff_eq] at h
          obtain ⟨⟨rfl, hfirst⟩, hrest⟩ := h
          obtain ⟨hname, hnodup⟩ := List.nodup_cons.mp hunique
          intro entry hmem
          rw [Bag.get?_cons]
          rcases List.mem_cons.mp hmem with rfl | hmem
          · exact ⟨a, if_pos rfl, hfirst⟩
          · rw [if_neg]
            · exact ih hnodup as hrest entry hmem
            · intro heq
              exact hname (List.mem_map.mpr ⟨entry, hmem, heq.symm⟩)

theorem agreesBag_of_equalBags (hafter : NamesUnique (.object after))
    (h : equalBags before after = true) : AgreesBag after before before := by
  induction after using bagInduction generalizing before with
  | step after ih =>
      rw [agreesBag_iff]
      refine ⟨?_, fun name _ => rfl⟩
      intro entry hmem
      obtain ⟨old, hold, hequal⟩ := exists_equal_of_equalBags h hafter.unique entry hmem
      refine ⟨old, hold, ?_⟩
      rw [hold]
      rcases entry.2.meets_object_or (some old) with ⟨members, inner, hmembers, hinner⟩ | hleaf
      · cases hinner
        have hunique := hafter.of_mem hmem
        rw [hmembers] at hequal hunique ⊢
        rw [equal] at hequal
        have hagrees := ih entry hmem members hmembers hunique hequal
        exact agrees_object_iff.mpr ⟨inner, rfl, hagrees⟩
      · rw [Agrees.eq_2 _ _ _ hleaf]
        exact Or.inr hequal

theorem agrees_of_equal {v old : Value} (hv : NamesUnique v) (h : old.equal v = true) :
    v.Agrees (some old) old := by
  rcases v.meets_object_or (some old) with ⟨members, inner, rfl, hinner⟩ | hleaf
  · cases hinner
    rw [equal] at h
    exact agrees_object_iff.mpr ⟨inner, rfl, agreesBag_of_equalBags hv h⟩
  · rw [Agrees.eq_2 _ _ _ hleaf]
    exact Or.inr h

theorem notMem_entryChanges_of_equal (hafter : after.Unique) {entry : String × Value}
    (hmem : entry ∈ after.entries)
    (hequal : (before.get? entry.1).any (·.equal entry.2) = true) :
    entry.1 ∉ (entryChanges after.entries before).map (·.1) := by
  intro hname
  obtain ⟨change, hchange, hname⟩ := List.mem_map.mp hname
  obtain ⟨other, hother, hdiffers, rfl⟩ := mem_entryChanges_iff.mp hchange
  have hget := Bag.get?_of_mem hafter hother
  rw [show other.1 = entry.1 from hname, Bag.get?_of_mem hafter hmem] at hget
  rw [show other.1 = entry.1 from hname, ← Option.some.inj hget, hequal] at hdiffers
  cases hdiffers

/-- The changes, laid over the earlier attributes, agree with the later ones. -/
theorem agreesBag_overlaidBag (hafter : NamesUnique (.object after)) (before : Bag Value) :
    AgreesBag after before (overlaidBag (bagChanges after before) before) := by
  induction after using bagInduction generalizing before with
  | step after ih =>
      obtain ⟨entries⟩ := after
      have hsublist := map_fst_entryChanges_sublist entries before
      have hnodup := hsublist.nodup hafter.unique
      rw [agreesBag_iff]
      constructor
      · intro entry hmem
        cases hold : (before.get? entry.1).any (·.equal entry.2) with
        | true =>
            have hskipped := notMem_entryChanges_of_equal hafter.unique hmem hold
            obtain ⟨old, hget, hequal⟩ := (Option.any_eq_true _ _).mp hold
            refine ⟨old, (get?_overlaidEntries_of_notMem hskipped).trans hget, ?_⟩
            rw [hget]
            exact agrees_of_equal (hafter.of_mem hmem) hequal
        | false =>
            have hchange : (entry.1, entry.2.changeFrom (before.get? entry.1)) ∈
                entryChanges entries before :=
              mem_entryChanges_iff.mpr ⟨entry, hmem, hold, rfl⟩
            have hget := get?_overlaidEntries_of_mem (b := before) hnodup hchange
            refine ⟨_, hget, ?_⟩
            rcases entry.2.meets_object_or (before.get? entry.1) with
              ⟨members, inner, hmembers, hinner⟩ | hleaf
            · have hunique := hafter.of_mem hmem
              rw [hmembers] at hunique ⊢
              rw [hinner]
              have hagrees := ih entry hmem members hmembers hunique inner
              exact agrees_object_iff.mpr ⟨_, rfl, hagrees⟩
            · rw [changeFrom.eq_2 _ _ hleaf, overlaid.eq_2 _ _ hleaf, Agrees.eq_2 _ _ _ hleaf]
              exact Or.inl rfl
      · intro name hname
        apply get?_overlaidEntries_of_notMem
        intro hmem
        exact hname (hsublist.mem hmem)

/-! ## Nothing left to change -/

/-- A value equals itself unless there is a NaN within it. -/
theorem equal_self {v : Value} (h : NaNFree v) : v.equal v = true := by
  induction v using partsInduction with
  | object members ih =>
      obtain ⟨entries⟩ := members
      have hentries : ∀ entry ∈ entries, entry.2.equal entry.2 = true :=
        fun entry hmem => ih entry hmem (nanFree_object_iff.mp h entry hmem)
      rw [equal, equalBags]
      clear ih h
      induction entries with
      | nil => simp [equalEntries]
      | cons entry rest ihrest =>
          obtain ⟨name, v⟩ := entry
          have hfirst : v.equal v = true := hentries (name, v) (by simp)
          have hrest := ihrest fun other hmem => hentries other (List.mem_cons_of_mem _ hmem)
          simp [equalEntries, hfirst, hrest]
  | list items ih =>
      have hitems : ∀ v ∈ items, v.equal v = true :=
        fun v hmem => ih v hmem (nanFree_list_iff.mp h v hmem)
      rw [equal]
      clear ih h
      induction items with
      | nil => simp [equalItems]
      | cons v rest ihrest =>
          have hfirst := hitems v (by simp)
          have hrest := ihrest fun other hmem => hitems other (List.mem_cons_of_mem _ hmem)
          simp [equalItems, hfirst, hrest]
  | atom v hobject hlist =>
      cases v with
      | object members => exact absurd rfl (hobject members)
      | list items => exact absurd rfl (hlist items)
      | float x =>
          have hx := h x (.self _)
          simp [equal, Binary64.equal, hx]
      | _ => simp [equal]

/-- What remains to be changed of a result that agrees are objects without a value. -/
theorem exists_objects_of_mem_changes (hagrees : AgreesBag after before result)
    (hnan : NaNFree (.object after)) {change : String × Value}
    (hmem : change ∈ (bagChanges after result).entries) :
    ∃ members earlier inner, (∃ entry ∈ after.entries, entry.2 = .object members) ∧
      result.get? change.1 = some (.object inner) ∧ AgreesBag members earlier inner ∧
      change.2 = .object (bagChanges members inner) := by
  obtain ⟨entries⟩ := after
  obtain ⟨entry, hentry, hdiffers, rfl⟩ := mem_entryChanges_iff.mp hmem
  obtain ⟨value, hget, hvalue⟩ := (agreesBag_iff.mp hagrees).1 entry hentry
  rw [hget] at hdiffers
  have hdiffers : value.equal entry.2 = false := hdiffers
  rcases entry.2.meets_object_or (before.get? entry.1) with
    ⟨members, earlier, hmembers, hearlier⟩ | hleaf
  · rw [hmembers, hearlier, agrees_object_iff] at hvalue
    obtain ⟨inner, rfl, hinner⟩ := hvalue
    refine ⟨members, earlier, inner, ⟨entry, hentry, hmembers⟩, hget, hinner, ?_⟩
    dsimp only
    rw [hget, hmembers, changeFrom]
  · rw [Agrees.eq_2 _ _ _ hleaf] at hvalue
    rcases hvalue with rfl | hequal
    · rw [equal_self (nanFree_object_iff.mp hnan entry hentry)] at hdiffers
      cases hdiffers
    · rw [hequal] at hdiffers
      cases hdiffers

/-- Of a result that agrees, no value remains to be changed. -/
theorem leafless_bagChanges (hagrees : AgreesBag after before result)
    (hnan : NaNFree (.object after)) : Leafless (.object (bagChanges after result)) := by
  induction after using bagInduction generalizing before result with
  | step after ih =>
      rw [leafless_object_iff]
      intro change hmem
      obtain ⟨members, earlier, inner, ⟨entry, hentry, hmembers⟩, -, hinner, hchange⟩ :=
        exists_objects_of_mem_changes hagrees hnan hmem
      have hfree := nanFree_object_iff.mp hnan entry hentry
      rw [hmembers] at hfree
      rw [hchange]
      exact ih entry hentry members hmembers hinner hfree

/-- A result that agrees stays as it is under the changes that remain. -/
theorem overlaidBag_bagChanges_eq_self (hagrees : AgreesBag after before result)
    (hnan : NaNFree (.object after)) :
    overlaidBag (bagChanges after result) result = result := by
  induction after using bagInduction generalizing before result with
  | step after ih =>
      apply overlaidBag_eq_self
      intro change hmem
      obtain ⟨members, earlier, inner, ⟨entry, hentry, hmembers⟩, hget, hinner, hchange⟩ :=
        exists_objects_of_mem_changes hagrees hnan hmem
      have hfree := nanFree_object_iff.mp hnan entry hentry
      rw [hmembers] at hfree
      rw [hget, hchange, overlaid, ih entry hentry members hmembers hinner hfree]

end Value

/-- Attributes after an update that aims at the later ones. -/
def Attributes.broughtTo (before after : Attributes) : Attributes :=
  before.overlay (after.changesSince before)

/-- An update brings attributes into agreement with those that it aims at.  Without a NaN
among these, no value then remains to be changed, and a second update changes nothing. -/
theorem agrees_broughtTo {after : Attributes} (hafter : Value.NamesUnique (.object after))
    (before : Attributes) :
    Value.AgreesBag after before (before.broughtTo after) ∧
      (Value.NaNFree (.object after) →
        Value.Leafless (.object (after.changesSince (before.broughtTo after))) ∧
        (before.broughtTo after).broughtTo after = before.broughtTo after) := by
  have hagrees := Value.agreesBag_overlaidBag hafter before
  refine ⟨hagrees, fun hnan => ⟨?_, ?_⟩⟩
  · exact Value.leafless_bagChanges hagrees hnan
  · exact Value.overlaidBag_bagChanges_eq_self hagrees hnan

/-- Attributes with a negative zero and a member that is new. -/
def signedAttributes : Attributes :=
  ⟨[("a", .object ⟨[("x", .float ⟨0x8000000000000000⟩), ("y", .list [.bool true])]⟩),
    ("b", .object ⟨[]⟩)]⟩

/-- Attributes with a positive zero and a member that will stay. -/
def unsignedAttributes : Attributes :=
  ⟨[("a", .object ⟨[("z", .null), ("x", .float ⟨0⟩)]⟩), ("b", .int 1), ("c", .text "kept")]⟩

theorem agrees_broughtTo_signed :
    Value.AgreesBag signedAttributes unsignedAttributes
        (unsignedAttributes.broughtTo signedAttributes) ∧
      Value.Leafless (.object
        (signedAttributes.changesSince (unsignedAttributes.broughtTo signedAttributes))) ∧
      (unsignedAttributes.broughtTo signedAttributes).broughtTo signedAttributes =
        unsignedAttributes.broughtTo signedAttributes := by
  have hunique : Value.NamesUnique (.object signedAttributes) := by
    simp [signedAttributes, Value.namesUnique_object_iff, Value.namesUnique_list_iff,
      Bag.Unique, Bag.names, Value.namesUnique_atom]
  have hnan : Value.NaNFree (.object signedAttributes) := by
    have hzero : Value.NaNFree (.float ⟨0x8000000000000000⟩) := by
      intro x hwithin
      cases hwithin
      decide
    have htrue : Value.NaNFree (.bool true) := by
      intro x hwithin
      cases hwithin
    simp [signedAttributes, Value.nanFree_object_iff, Value.nanFree_list_iff, hzero, htrue]
  obtain ⟨hagrees, hstable⟩ := agrees_broughtTo hunique unsignedAttributes
  exact ⟨hagrees, hstable hnan⟩

end ResourceSql
