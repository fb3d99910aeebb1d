import ResourceSql.Proofs.Overlay
import ResourceSql.Value.Change

/-!
# Changes report what differs

The changes between two bags of attributes name, in the order of the later bag, what does not
equal the earlier value.  Whatever they report by itself, at any depth, is the later value at
its place and differs from what was there.  There are none if and only if everything is
unchanged, and none in either direction if and only if both bags hold the same.
-/

namespace ResourceSql

theorem Binary64.equal_comm (x y : Binary64) : x.equal y = y.equal x := by
  unfold Binary64.equal
  rw [Bool.and_comm (!x.isNaN), Bool.and_comm x.isZero, Bool.beq_comm]

namespace Value

/-! ## Comparison -/

theorem equalItems_comm {as bs : List Value}
    (h : ∀ a ∈ as, ∀ b : Value, a.equal b = b.equal a) : equalItems as bs = equalItems bs as := by
  induction as generalizing bs with
  | nil => cases bs <;> simp [equalItems]
  | cons a as ih =>
      cases bs with
      | nil => simp [equalItems]
      | cons b bs =>
          rw [equalItems, equalItems, h a (by simp), ih fun v hv => h v (List.mem_cons_of_mem a hv)]

theorem equalEntries_comm {as bs : List (String × Value)}
    (h : ∀ entry ∈ as, ∀ b : Value, entry.2.equal b = b.equal entry.2) :
    equalEntries as bs = equalEntries bs as := by
  induction as generalizing bs with
  | nil => cases bs <;> simp [equalEntries]
  | cons entry as ih =>
      cases bs with
      | nil => simp [equalEntries]
      | cons other bs =>
          rw [equalEntries, equalEntries, h entry (by simp),
            ih fun e he => h e (List.mem_cons_of_mem entry he), Bool.beq_comm]

theorem equal_comm (v w : Value) : v.equal w = w.equal v := by
  induction v using partsInduction generalizing w with
  | object members ih =>
      cases w with
      | object others =>
          rw [equal, equal, equalBags, equalBags]
          exact equalEntries_comm ih
      | _ => simp [equal]
  | list items ih =>
      cases w with
      | list others =>
          rw [equal, equal]
          exact equalItems_comm ih
      | _ => simp [equal]
  | atom v hobject hlist =>
      cases v with
      | object members => exact absurd rfl (hobject members)
      | list items => exact absurd rfl (hlist items)
      | float x =>
          cases w with
          | float y => simpa [equal] using x.equal_comm y
          | _ => simp [equal]
      | _ => cases w <;> simp [equal, Bool.beq_comm, eq_comm]

/-! ## Values at places -/

theorem exists_object_of_at?_cons {v w : Value} {name : String} {path : JsonPath}
    (h : v.at? (name :: path) = some w) : ∃ members, v = .object members := by
  cases v with
  | object members => exact ⟨members, rfl⟩
  | _ => cases h

/-! ## Changes -/

variable {after before : Bag Value}

theorem map_fst_entryChanges (entries : List (String × Value)) (before : Bag Value) :
    (entryChanges entries before).map (·.1) =
      (entries.filter fun entry => !(before.get? entry.1).any (·.equal entry.2)).map (·.1) := by
  induction entries with
  | nil => rfl
  | cons entry rest ih =>
      cases hold : (before.get? entry.1).any (·.equal entry.2) <;>
        simp [entryChanges, hold, ih]

/-- A change under a name is that of the later value, which does not equal the earlier one. -/
theorem exists_of_get?_bagChanges (hafter : after.Unique) {name : String} {change : Value}
    (h : (bagChanges after before).get? name = some change) :
    ∃ v, after.get? name = some v ∧ (before.get? name).any (·.equal v) = false ∧
      change = v.changeFrom (before.get? name) := by
  obtain ⟨entries⟩ := after
  rw [bagChanges] at h
  obtain ⟨entry, hentry, hdiffers, hchange⟩ :=
    mem_entryChanges_iff.mp (Bag.mem_of_get?_eq_some h)
  obtain ⟨rfl, rfl⟩ := Prod.ext_iff.mp hchange
  exact ⟨entry.2, Bag.get?_of_mem hafter hentry, hdiffers, rfl⟩

/-- What changes report by itself is the later value, and does not equal the earlier one. -/
theorem differs_of_reportAt (hafter : NamesUnique (.object after)) {path : JsonPath} {v : Value}
    (h : Attributes.ReportAt (bagChanges after before) before path v) :
    (object after).at? path = some v ∧
      ∀ old, (object before).at? path = some old → old.equal v = false := by
  induction after using bagInduction generalizing before path with
  | step after ih =>
      obtain ⟨hreport, hmeets⟩ := h
      cases path with
      | nil =>
          cases hreport
          exact absurd ⟨rfl, _, rfl, rfl⟩ hmeets
      | cons name path =>
          obtain ⟨change, hchange, hwithin⟩ := Option.bind_eq_some_iff.mp hreport
          obtain ⟨later, hlater, hdiffers, rfl⟩ :=
            exists_of_get?_bagChanges hafter.unique hchange
          have hentry := Bag.mem_of_get?_eq_some hlater
          rw [at?_object_cons, hlater, Option.bind_some, at?_object_cons]
          rcases later.meets_object_or (before.get? name) with
            ⟨members, inner, rfl, hinner⟩ | hleaf
          · rw [hinner, changeFrom] at hwithin
            rw [hinner]
            refine ih (name, .object members) hentry members rfl (hafter.of_mem hentry)
              ⟨hwithin, ?_⟩
            rintro ⟨hobject, old, hold, holdObject⟩
            refine hmeets ⟨hobject, old, ?_, holdObject⟩
            rw [Attributes.at?, at?_object_cons, hinner]
            exact hold
          · rw [changeFrom.eq_2 _ _ hleaf] at hwithin
            refine ⟨hwithin, fun old hold => ?_⟩
            obtain ⟨earlier, hearlier, hold⟩ := Option.bind_eq_some_iff.mp hold
            cases path with
            | nil =>
                cases hwithin
                cases hold
                simpa [hearlier] using hdiffers
            | cons next path =>
                -- A place within both would be within two objects that meet.
                obtain ⟨members, hmembers⟩ := exists_object_of_at?_cons hwithin
                obtain ⟨inner, hinner⟩ := exists_object_of_at?_cons hold
                exact (hleaf members inner hmembers (hinner ▸ hearlier)).elim

end Value

/-! ## Nothing to report -/

namespace Attributes

open Value

variable {after before : Attributes}

theorem names_changesSince (after before : Attributes) :
    (after.changesSince before).names =
      (after.entries.filter fun entry =>
        !(before.get? entry.1).any (·.equal entry.2)).map (·.1) := by
  obtain ⟨entries⟩ := after
  exact map_fst_entryChanges entries before

theorem isUnchangedSince_iff :
    after.isUnchangedSince before = true ↔
      ∀ entry ∈ after.entries, (before.get? entry.1).any (·.equal entry.2) = true := by
  simp [isUnchangedSince]

theorem isEmpty_changesSince_iff :
    (after.changesSince before).isEmpty = true ↔ after.isUnchangedSince before = true := by
  have hnames : (after.changesSince before).isEmpty = true ↔
      (after.changesSince before).names = [] := by
    simp [Bag.isEmpty, Bag.names]
  rw [hnames, names_changesSince, List.map_eq_nil_iff, List.filter_eq_nil_iff,
    isUnchangedSince_iff]
  apply forall₂_congr
  intro entry _
  simp

/-- Everything is unchanged if and only if each name has an earlier value that equals its own. -/
theorem isUnchangedSince_iff_get? (hafter : after.Unique) :
    after.isUnchangedSince before = true ↔
      ∀ name v, after.get? name = some v →
        ∃ old, before.get? name = some old ∧ old.equal v = true := by
  rw [isUnchangedSince_iff]
  constructor
  · intro h name v hv
    exact (Option.any_eq_true _ _).mp (h (name, v) (Bag.mem_of_get?_eq_some hv))
  · intro h entry hentry
    exact (Option.any_eq_true _ _).mpr (h entry.1 entry.2 (Bag.get?_of_mem hafter hentry))

theorem names_subset_of_isUnchangedSince (hafter : after.Unique)
    (h : after.isUnchangedSince before = true) {name : String} (hname : name ∈ after.names) :
    name ∈ before.names := by
  obtain ⟨v, hv⟩ := Option.isSome_iff_exists.mp ((Bag.isSome_get?_iff after name).mpr hname)
  obtain ⟨old, hold, -⟩ := (isUnchangedSince_iff_get? hafter).mp h name v hv
  rw [← Bag.isSome_get?_iff, hold]
  rfl

/-- Without a NaN, attributes that hold the same are unchanged since each other. -/
theorem SameValues.isUnchangedSince (hsame : after.SameValues before) (hafter : after.Unique)
    (hnan : NaNFree (.object after)) : after.isUnchangedSince before = true := by
  rw [isUnchangedSince_iff_get? hafter]
  intro name v hv
  have hname : name ∈ after.names := (Bag.isSome_get?_iff after name).mp (by rw [hv]; rfl)
  obtain ⟨old, hold⟩ := Option.isSome_iff_exists.mp
    ((Bag.isSome_get?_iff before name).mpr ((hsame.1 name).mp hname))
  refine ⟨old, hold, ?_⟩
  rcases hsame.2 name v old hv hold with rfl | hequal
  · exact equal_self (nanFree_object_iff.mp hnan (name, v) (Bag.mem_of_get?_eq_some hv))
  · rw [equal_comm, hequal]

theorem SameValues.symm (h : after.SameValues before) : before.SameValues after := by
  refine ⟨fun name => (h.1 name).symm, fun name v w hv hw => ?_⟩
  rw [eq_comm, equal_comm]
  exact h.2 name w v hw hv

/-- Attributes are unchanged since each other if and only if they hold the same. -/
theorem isUnchangedSince_and_iff (hafter : after.Unique) (hbefore : before.Unique)
    (hafterNaN : NaNFree (.object after)) (hbeforeNaN : NaNFree (.object before)) :
    after.isUnchangedSince before = true ∧ before.isUnchangedSince after = true ↔
      after.SameValues before := by
  constructor
  · rintro ⟨hforward, hbackward⟩
    refine ⟨fun name => ⟨?_, ?_⟩, fun name v w hv hw => ?_⟩
    · exact names_subset_of_isUnchangedSince hafter hforward
    · exact names_subset_of_isUnchangedSince hbefore hbackward
    · obtain ⟨found, hfound, hequal⟩ :=
        (isUnchangedSince_iff_get? hbefore).mp hbackward name w hw
      rw [hv] at hfound
      cases hfound
      exact Or.inr hequal
  · intro hsame
    exact ⟨hsame.isUnchangedSince hafter hafterNaN, hsame.symm.isUnchangedSince hbefore hbeforeNaN⟩

end Attributes

/-- The changes between attributes name, in their order, what does not equal the earlier value.
What they report by itself, at any depth, is the later value at its place and does not equal the
earlier one.  There are none if and only if everything is unchanged, and without a NaN there are
none in either direction if and only if both hold the same. -/
theorem changesSince_reports {after before : Attributes}
    (hafter : Value.NamesUnique (.object after)) (hbefore : Value.NamesUnique (.object before)) :
    (after.changesSince before).names =
        (after.entries.filter fun entry =>
          !(before.get? entry.1).any (·.equal entry.2)).map (·.1) ∧
      (∀ path v, Attributes.ReportAt (after.changesSince before) before path v →
        after.at? path = some v ∧ ∀ old, before.at? path = some old → old.equal v = false) ∧
      after.isUnchangedSince before = (after.changesSince before).isEmpty ∧
      (Value.NaNFree (.object after) → Value.NaNFree (.object before) →
        ((after.changesSince before).isEmpty = true ∧ (before.changesSince after).isEmpty = true ↔
          after.SameValues before)) := by
  refine ⟨Attributes.names_changesSince after before, ?_, ?_, ?_⟩
  · intro path v hreport
    exact Value.differs_of_reportAt hafter hreport
  · exact Bool.eq_iff_iff.mpr Attributes.isEmpty_changesSince_iff.symm
  · intro hafterNaN hbeforeNaN
    rw [Attributes.isEmpty_changesSince_iff, Attributes.isEmpty_changesSince_iff]
    exact Attributes.isUnchangedSince_and_iff hafter.unique hbefore.unique hafterNaN hbeforeNaN

/-- An address as it was, with a member that will be gone. -/
def formerAddress : Attributes :=
  ⟨[("name", .text "Ada"), ("home", .object ⟨[("zip", .int 10115), ("city", .text "Ulm"),
    ("floor", .null)]⟩), ("active", .bool true)]⟩

/-- The address after a move, with its members in another order. -/
def movedAddress : Attributes :=
  ⟨[("home", .object ⟨[("city", .text "Bonn"), ("zip", .int 10115)]⟩), ("active", .bool true),
    ("name", .text "Ada"), ("visits", .list [.int 1])]⟩

theorem changesSince_reports_movedAddress :
    (movedAddress.changesSince formerAddress).names = ["home", "visits"] ∧
      (movedAddress.at? ["home", "city"] = some (.text "Bonn") ∧
        ∀ old, formerAddress.at? ["home", "city"] = some old →
          old.equal (.text "Bonn") = false) ∧
      movedAddress.isUnchangedSince formerAddress = false ∧
      ¬ movedAddress.SameValues formerAddress := by
  have hmoved : Value.NamesUnique (.object movedAddress) := by
    simp [movedAddress, Value.namesUnique_object_iff, Value.namesUnique_list_iff, Bag.Unique,
      Bag.names, Value.namesUnique_atom]
  have hformer : Value.NamesUnique (.object formerAddress) := by
    simp [formerAddress, Value.namesUnique_object_iff, Bag.Unique, Bag.names,
      Value.namesUnique_atom]
  have hmovedNaN : Value.NaNFree (.object movedAddress) := by
    simp [movedAddress, Value.nanFree_object_iff, Value.nanFree_list_iff, Value.nanFree_atom]
  have hformerNaN : Value.NaNFree (.object formerAddress) := by
    simp [formerAddress, Value.nanFree_object_iff, Value.nanFree_atom]
  have hchanges : movedAddress.changesSince formerAddress =
      ⟨[("home", .object ⟨[("city", .text "Bonn")]⟩), ("visits", .list [.int 1])]⟩ := by
    simp [Attributes.changesSince, movedAddress, formerAddress, Value.bagChanges,
      Value.entryChanges, Bag.get?, Value.equal, Value.equalBags, Value.equalEntries,
      Value.changeFrom]
  obtain ⟨-, hreports, hunchanged, hsame⟩ := changesSince_reports hmoved hformer
  rw [hchanges] at hreports hunchanged hsame ⊢
  refine ⟨rfl, hreports ["home", "city"] _ ⟨rfl, ?_⟩, hunchanged, ?_⟩
  · rintro ⟨hobject, -⟩
    cases hobject
  · intro hsameValues
    have hnone := ((hsame hmovedNaN hformerNaN).mpr hsameValues).1
    cases hnone

end ResourceSql
