import ResourceSql.Bag.History
import ResourceSql.Proofs.Bag

/-!
# Bags as ordered maps

After any operations a bag is the ordered map that the history of its names tells of.
One event keeps this, hence every operation and every run does.  An operation leaves the
names that it does not touch with their values and in their order.
-/

namespace ResourceSql.Bag

variable {α : Type}

/-! ## Removal -/

theorem get?_erase_self {b : Bag α} (hb : b.Unique) (name : String) :
    (b.erase name).get? name = none := by
  have hname : name ∉ (b.erase name).names := by simp [names_erase hb]
  rw [← isSome_get?_iff] at hname
  simpa using hname

theorem get?_erase_of_ne (b : Bag α) {name other : String} (hne : other ≠ name) :
    (b.erase name).get? other = b.get? other := by
  obtain ⟨entries⟩ := b
  unfold erase
  induction entries with
  | nil => rfl
  | cons entry rest ih =>
      obtain ⟨first, value⟩ := entry
      by_cases hfirst : first = name
      · subst hfirst
        simp [get?_cons, hne.symm]
      · simpa [hfirst, get?_cons] using congrArg (if first = other then some value else ·) ih

/-! ## Events -/

/-- A bag after something happened to a name. -/
def Event.apply : Event α → Bag α → Bag α
  | .written name value, b => b.insert name value
  | .changed name change, b => b.modify name change
  | .removed name, b => b.erase name
  | .forgotten, _ => empty

theorem bornAt?_lt_length {past : List (Event α)} {name : String} {t : Nat}
    (h : bornAt? name past = some t) : t < past.length := by
  induction past generalizing t with
  | nil => cases h
  | cons event past ih =>
      rw [List.length_cons]
      cases event with
      | written other value =>
          by_cases hother : other = name
          · cases hborn : bornAt? name past with
            | none =>
                simp only [bornAt?, hother, if_true, hborn, Option.getD_none] at h
                cases h
                exact Nat.lt_succ_self _
            | some s =>
                simp only [bornAt?, hother, if_true, hborn, Option.getD_some] at h
                cases h
                exact Nat.lt_succ_of_lt (ih hborn)
          · rw [bornAt?, if_neg hother] at h
            exact Nat.lt_succ_of_lt (ih h)
      | changed other change => exact Nat.lt_succ_of_lt (ih h)
      | removed other =>
          by_cases hother : other = name
          · simp [bornAt?, hother] at h
          · rw [bornAt?, if_neg hother] at h
            exact Nat.lt_succ_of_lt (ih h)
      | forgotten => cases h

/-- A name has its place since some time if and only if it has a value. -/
theorem isSome_bornAt? (name : String) (past : List (Event α)) :
    (bornAt? name past).isSome = (lastValue? name past).isSome := by
  induction past with
  | nil => rfl
  | cons event past ih =>
      cases event with
      | written other value => by_cases h : other = name <;> simp [bornAt?, lastValue?, h, ih]
      | changed other change => by_cases h : other = name <;> simp [bornAt?, lastValue?, h, ih]
      | removed other => by_cases h : other = name <;> simp [bornAt?, lastValue?, h, ih]
      | forgotten => rfl

/-- What a bag has to keep for its history to tell of it. -/
theorem Tells.of_ordered {past : List (Event α)} {b : Bag α} (hunique : b.Unique)
    (hget : ∀ name, b.get? name = lastValue? name past)
    (hordered : b.names.Pairwise (Older past)) : Tells past b where
  unique := hunique
  get?_eq := hget
  contains_eq name := by rw [contains_eq_isSome_get?, hget]
  mem_entries_iff name value := by
    rw [← hget]
    constructor
    · intro hmem
      exact get?_of_mem hunique hmem
    · exact mem_of_get?_eq_some
  entries_eq := by simp [names, values, List.zip_map']
  length_names := by simp [names, size]
  length_values := by simp [values, size]
  ordered := hordered

theorem tells_empty : Tells [] (empty : Bag α) :=
  Tells.of_ordered unique_empty (fun _ => rfl) List.Pairwise.nil

namespace Tells

variable {past : List (Event α)} {b : Bag α}

theorem isSome_bornAt?_iff (h : Tells past b) (name : String) :
    (bornAt? name past).isSome = true ↔ name ∈ b.names := by
  rw [isSome_bornAt?, ← h.get?_eq, isSome_get?_iff]

/-- The names that keep the times of their places keep their order. -/
theorem ordered_of_bornAt?_eq (h : Tells past b) {event : Event α} {names : List String}
    (hsub : names.Sublist b.names)
    (hborn : ∀ name ∈ names, bornAt? name (event :: past) = bornAt? name past) :
    names.Pairwise (Older (event :: past)) := by
  refine (h.ordered.sublist hsub).imp_of_mem ?_
  intro name other hname hother hage
  unfold Older
  rwa [hborn name hname, hborn other hother]

theorem written (h : Tells past b) (name : String) (value : α) :
    Tells (.written name value :: past) (b.insert name value) := by
  apply Tells.of_ordered (unique_insert h.unique name value)
  · intro other
    by_cases hother : name = other
    · subst hother
      rw [get?_insert_self, lastValue?, if_pos rfl]
    · rw [get?_insert_of_ne b (Ne.symm hother), lastValue?, if_neg hother, h.get?_eq]
  · -- A known name keeps its time; a new one gets the present, later than all others.
    have hborn : ∀ other ∈ b.names,
        bornAt? other (.written name value :: past) = bornAt? other past := by
      intro other hmem
      obtain ⟨t, ht⟩ := Option.isSome_iff_exists.mp ((h.isSome_bornAt?_iff other).mpr hmem)
      by_cases hother : name = other
      · subst hother
        simp [bornAt?, ht]
      · rw [bornAt?, if_neg hother]
    have hold := h.ordered_of_bornAt?_eq (List.Sublist.refl b.names) hborn
    rw [names_insert]
    by_cases hmem : name ∈ b.names
    · rwa [if_pos hmem]
    · rw [if_neg hmem]
      refine List.pairwise_append.mpr ⟨hold, List.pairwise_singleton _ _, ?_⟩
      intro other hother last hlast
      rw [List.mem_singleton.mp hlast]
      obtain ⟨t, ht⟩ := Option.isSome_iff_exists.mp ((h.isSome_bornAt?_iff other).mpr hother)
      have hnone : bornAt? name past = none := by
        rw [← h.isSome_bornAt?_iff] at hmem
        simpa using hmem
      refine ⟨t, past.length, (hborn other hother).trans ht, ?_, bornAt?_lt_length ht⟩
      simp [bornAt?, hnone]

theorem changed (h : Tells past b) (name : String) (change : α → α) :
    Tells (.changed name change :: past) (b.modify name change) := by
  have hnames : (b.modify name change).names = b.names := by
    unfold modify
    split
    · rename_i value hvalue
      have hmem : name ∈ b.names := by rw [← isSome_get?_iff, hvalue, Option.isSome_some]
      rw [names_insert, if_pos hmem]
    · rfl
  apply Tells.of_ordered
  · unfold Unique
    rw [hnames]
    exact h.unique
  · intro other
    unfold modify
    by_cases hother : name = other
    · subst hother
      rw [lastValue?, if_pos rfl, ← h.get?_eq]
      cases hvalue : b.get? name with
      | none => simp [hvalue]
      | some value => simp [get?_insert_self]
    · rw [lastValue?, if_neg hother, ← h.get?_eq]
      split
      · rw [get?_insert_of_ne b (Ne.symm hother)]
      · rfl
  · rw [hnames]
    exact h.ordered_of_bornAt?_eq (List.Sublist.refl b.names) fun _ _ => rfl

theorem removed (h : Tells past b) (name : String) :
    Tells (.removed name :: past) (b.erase name) := by
  apply Tells.of_ordered (unique_erase h.unique name)
  · intro other
    by_cases hother : name = other
    · subst hother
      rw [get?_erase_self h.unique, lastValue?, if_pos rfl]
    · rw [get?_erase_of_ne b (Ne.symm hother), lastValue?, if_neg hother, h.get?_eq]
  · rw [names_erase h.unique]
    apply h.ordered_of_bornAt?_eq List.filter_sublist
    intro other hmem
    have hother : other ≠ name := by simpa using (List.mem_filter.mp hmem).2
    rw [bornAt?, if_neg hother.symm]

/-- One event keeps a bag the map that its history tells of. -/
theorem event (h : Tells past b) (event : Event α) : Tells (event :: past) (event.apply b) := by
  cases event with
  | written name value => exact h.written name value
  | changed name change => exact h.changed name change
  | removed name => exact h.removed name
  | forgotten => exact Tells.of_ordered unique_empty (fun _ => rfl) List.Pairwise.nil

theorem events (h : Tells past b) (events : List (Event α)) :
    Tells (events.reverse ++ past) (events.foldl (fun b event => event.apply b) b) := by
  induction events generalizing past b with
  | nil => exact h
  | cons event events ih =>
      rw [List.reverse_cons, List.append_assoc]
      exact ih (h.event event)

end Tells

/-! ## Operations -/

theorem foldl_apply_written (entries : List (String × α)) (b : Bag α) :
    (entries.map fun (name, value) => Event.written name value).foldl
      (fun b event => event.apply b) b = b.insertMany entries := by
  rw [List.foldl_map]
  rfl

/-- An operation is its events, one after the other. -/
theorem Operation.apply_eq_foldl (operation : Operation α) (b : Bag α) :
    operation.apply b = operation.events.foldl (fun b event => event.apply b) b := by
  cases operation with
  | insertMany entries => exact (foldl_apply_written entries b).symm
  | ofList entries => exact (foldl_apply_written entries empty).symm
  | _ => rfl

theorem tells_run (operations : List (Operation α)) :
    Tells (history operations) (run operations) := by
  have hrun : run operations =
      (operations.flatMap Operation.events).foldl (fun b event => event.apply b) empty := by
    simp only [run, List.foldl_flatMap, Operation.apply_eq_foldl]
  rw [hrun]
  simpa [history] using tells_empty.events (operations.flatMap Operation.events)

/-! ## What an operation leaves alone -/

theorem filter_entries_insert {kept : String → Bool} {name : String} (h : kept name = false)
    (b : Bag α) (value : α) :
    (b.insert name value).entries.filter (kept ·.1) = b.entries.filter (kept ·.1) := by
  unfold insert
  induction b.entries with
  | nil => simp [insertEntry, h]
  | cons entry rest ih =>
      obtain ⟨other, old⟩ := entry
      by_cases hother : other = name
      · simp [insertEntry, hother, h]
      · simp [insertEntry, hother, List.filter_cons, ih]

theorem filter_entries_erase {kept : String → Bool} {name : String} (h : kept name = false)
    (b : Bag α) :
    (b.erase name).entries.filter (kept ·.1) = b.entries.filter (kept ·.1) := by
  unfold erase
  induction b.entries with
  | nil => rfl
  | cons entry rest ih =>
      obtain ⟨other, old⟩ := entry
      by_cases hother : other = name
      · simp [hother, h]
      · simp [hother, List.filter_cons, ih]

theorem filter_entries_modify {kept : String → Bool} {name : String} (h : kept name = false)
    (b : Bag α) (change : α → α) :
    (b.modify name change).entries.filter (kept ·.1) = b.entries.filter (kept ·.1) := by
  unfold modify
  split
  · exact filter_entries_insert h b _
  · rfl

theorem filter_entries_insertMany {kept : String → Bool} {entries : List (String × α)}
    (h : ∀ name ∈ entries.map (·.1), kept name = false) (b : Bag α) :
    (b.insertMany entries).entries.filter (kept ·.1) = b.entries.filter (kept ·.1) := by
  induction entries generalizing b with
  | nil => rfl
  | cons entry rest ih =>
      have hrest := ih (fun name hmem => h name (List.mem_cons_of_mem _ hmem))
        (b.insert entry.1 entry.2)
      exact hrest.trans (filter_entries_insert (h entry.1 (by simp)) b entry.2)

/-- Of the names that an operation does not touch, the entries stay as they are. -/
theorem Operation.filter_entries_apply {kept : String → Bool} {operation : Operation α}
    (h : ∀ name, operation.Touches name → kept name = false) (b : Bag α) :
    (operation.apply b).entries.filter (kept ·.1) = b.entries.filter (kept ·.1) := by
  cases operation with
  | exchange name value => exact filter_entries_insert (h name rfl) b value
  | insert name value => exact filter_entries_insert (h name rfl) b value
  | modify name change => exact filter_entries_modify (h name rfl) b change
  | extract name => exact filter_entries_erase (h name rfl) b
  | insertMany entries => exact filter_entries_insertMany h b
  | ofList entries =>
      have hnone : ∀ es : List (String × α), es.filter (kept ·.1) = [] := by
        intro es
        simp [h _ trivial]
      rw [hnone, hnone]

/-- After any operations a bag is the ordered map that its history tells of, insertion and
removal return what was last written under the name, and the next operation leaves the
names that it does not touch with their values and in their order. -/
theorem run_tells_history (operations : List (Operation α)) :
    Tells (history operations) (run operations) ∧
      (∀ name value, ((run operations).exchange name value).1 =
        lastValue? name (history operations)) ∧
      (∀ name, ((run operations).extract name).1 = lastValue? name (history operations)) ∧
      ∀ (next : Operation α) (kept : String → Bool),
        (∀ name, next.Touches name → kept name = false) →
          (run (operations ++ [next])).entries.filter (kept ·.1) =
            (run operations).entries.filter (kept ·.1) := by
  have htells := tells_run operations
  refine ⟨htells, fun name _ => htells.get?_eq name, htells.get?_eq, ?_⟩
  intro next kept hkept
  have hrun : run (operations ++ [next]) = next.apply (run operations) := by simp [run]
  rw [hrun]
  exact Operation.filter_entries_apply hkept _

end ResourceSql.Bag
