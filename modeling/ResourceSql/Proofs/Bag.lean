import Mathlib.Tactic.Common
import ResourceSql.Bag

/-!
# Laws of bags
-/

namespace ResourceSql.Bag

variable {α : Type}

theorem mem_names_insert {b : Bag α} {name other : String} {value : α}
    (h : other ∈ (b.insert name value).names) : other ∈ b.names ∨ other = name := by
  rw [names_insert] at h
  split_ifs at h
  · exact Or.inl h
  · simpa using h

theorem mem_names_insertMany {entries : List (String × α)} {b : Bag α} {name : String}
    (h : name ∈ (b.insertMany entries).names) :
    name ∈ b.names ∨ name ∈ entries.map (·.1) := by
  induction entries generalizing b with
  | nil => exact Or.inl h
  | cons entry rest ih =>
      rcases ih h with h | h
      · rcases mem_names_insert h with h | rfl
        · exact Or.inl h
        · exact Or.inr (by simp)
      · exact Or.inr (List.mem_cons_of_mem _ h)

theorem isSome_get?_iff (b : Bag α) (name : String) :
    (b.get? name).isSome = true ↔ name ∈ b.names := by
  rw [← contains_eq_isSome_get?, contains_iff_mem_names]

theorem get?_cons (name other : String) (value : α) (rest : List (String × α)) :
    (⟨(name, value) :: rest⟩ : Bag α).get? other =
      if name = other then some value else (⟨rest⟩ : Bag α).get? other := by
  by_cases h : name = other <;> simp [get?, h]

theorem mem_of_get?_eq_some {b : Bag α} {name : String} {value : α}
    (h : b.get? name = some value) : (name, value) ∈ b.entries := by
  obtain ⟨entry, hfind, rfl⟩ := Option.map_eq_some_iff.mp h
  have hname : entry.1 = name := by simpa using List.find?_some hfind
  rw [← hname]
  exact List.mem_of_find?_eq_some hfind

theorem get?_of_mem {b : Bag α} (hb : b.Unique) {entry : String × α} (h : entry ∈ b.entries) :
    b.get? entry.1 = some entry.2 := by
  obtain ⟨entries⟩ := b
  induction entries with
  | nil => cases h
  | cons first rest ih =>
      obtain ⟨hfirst, hrest⟩ := List.nodup_cons.mp hb
      rw [get?_cons]
      rcases List.mem_cons.mp h with rfl | h
      · exact if_pos rfl
      · rw [if_neg]
        · exact ih hrest h
        · intro heq
          apply hfirst
          exact List.mem_map.mpr ⟨entry, h, heq.symm⟩

theorem insert_eq_self {b : Bag α} {name : String} {value : α}
    (h : b.get? name = some value) : b.insert name value = b := by
  obtain ⟨entries⟩ := b
  unfold insert
  congr 1
  induction entries with
  | nil => cases h
  | cons entry rest ih =>
      obtain ⟨other, old⟩ := entry
      rw [get?_cons] at h
      unfold insertEntry
      split_ifs at h ⊢ with hother
      · cases h
        rw [hother]
      · rw [ih h]

theorem insert_insert (b : Bag α) (name : String) (first second : α) :
    (b.insert name first).insert name second = b.insert name second := by
  unfold insert
  congr 1
  induction b.entries with
  | nil => simp [insertEntry]
  | cons entry rest ih =>
      obtain ⟨other, old⟩ := entry
      by_cases hother : other = name
      · simp [insertEntry, hother]
      · simpa [insertEntry, hother] using ih

theorem insert_eq_append {b : Bag α} {name : String} (h : name ∉ b.names) (value : α) :
    b.insert name value = ⟨b.entries ++ [(name, value)]⟩ := by
  obtain ⟨entries⟩ := b
  unfold insert
  congr 1
  induction entries with
  | nil => rfl
  | cons entry rest ih =>
      obtain ⟨other, old⟩ := entry
      rw [names, List.map_cons, List.mem_cons, not_or] at h
      rw [insertEntry, if_neg (Ne.symm h.1), ih h.2, List.cons_append]

/-- Entries with distinct new names go to the end one after the other. -/
theorem insertMany_eq_append {b : Bag α} {entries : List (String × α)}
    (h : ((b.entries ++ entries).map (·.1)).Nodup) :
    b.insertMany entries = ⟨b.entries ++ entries⟩ := by
  induction entries generalizing b with
  | nil => simp [insertMany]
  | cons entry rest ih =>
      have hname : entry.1 ∉ b.names := by
        intro hmem
        rw [List.map_append, List.nodup_append] at h
        exact h.2.2 _ hmem _ List.mem_cons_self rfl
      rw [insertMany, List.foldl_cons, insert_eq_append hname]
      have hrest := ih (b := ⟨b.entries ++ [entry]⟩) (by simpa using h)
      simpa [insertMany] using hrest

theorem ofList_entries {entries : List (String × α)} (h : (⟨entries⟩ : Bag α).Unique) :
    ofList entries = ⟨entries⟩ :=
  insertMany_eq_append h

/-- Names that are inserted stand behind those that were there, each where it first comes up. -/
theorem names_insertMany (b : Bag α) (entries : List (String × α)) :
    (b.insertMany entries).names =
      b.names ++ ((entries.map (·.1)).filter (· ∉ b.names)).eraseDups := by
  induction entries generalizing b with
  | nil => simp [insertMany]
  | cons entry rest ih =>
      rw [insertMany, List.foldl_cons, ← insertMany, ih, names_insert, List.map_cons]
      by_cases hname : entry.1 ∈ b.names
      · rw [if_pos hname, List.filter_cons_of_neg (by simpa using hname)]
      · rw [if_neg hname, List.filter_cons_of_pos (by simpa using hname), List.eraseDups_cons,
          List.filter_filter, List.append_assoc, List.singleton_append]
        congr 4
        funext name
        by_cases hsame : name = entry.1 <;> simp [hsame]

/-- Of values that are inserted under one name, the last one is found. -/
theorem get?_insertMany (b : Bag α) (entries : List (String × α)) (name : String) :
    (b.insertMany entries).get? name =
      ((entries.reverse.find? (·.1 == name)).map (·.2)).or (b.get? name) := by
  induction entries generalizing b with
  | nil => rfl
  | cons entry rest ih =>
      rw [insertMany, List.foldl_cons, ← insertMany, ih, List.reverse_cons, List.find?_append]
      cases rest.reverse.find? (·.1 == name) with
      | some found => rfl
      | none =>
          by_cases hname : entry.1 = name
          · simp [hname, get?_insert_self]
          · simp [hname, get?_insert_of_ne b (Ne.symm hname)]

/-- The values stand in the order of their names. -/
theorem values_eq_map {b : Bag α} (hb : b.Unique) {value : String → α}
    (h : ∀ name ∈ b.names, b.get? name = some (value name)) :
    b.values = b.names.map value := by
  unfold values names
  rw [List.map_map]
  apply List.map_congr_left
  intro entry hentry
  have hget := h entry.1 (List.mem_map_of_mem hentry)
  rw [get?_of_mem hb hentry] at hget
  exact Option.some.inj hget

end ResourceSql.Bag
