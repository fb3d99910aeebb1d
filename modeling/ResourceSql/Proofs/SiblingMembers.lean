import Mathlib.Data.List.Forall2
import ResourceSql.Proofs.WrittenColumns
import ResourceSql.Sql.ColumnWrites

/-!
# Sibling members of a changed object

What an update does to columns is read back from its text, item by item.  An object is merged
into the object of the attribute that has its very name, and then its siblings stay.  But the
column can be that of an attribute under another name, whose object is replaced with all its
members.
-/

namespace ResourceSql

open Sql

/-! ## Items -/

namespace Sql

/-- Tokens that commas do not divide outside parentheses. -/
def Undivided (ts : List Token) : Prop :=
  ∀ item rest, items 0 item (ts ++ rest) = items 0 (item ++ ts) rest

/-- Inside parentheses an item goes on, whatever is in them. -/
theorem items_of_openAfter? {depth final : Nat} {ts : List Token}
    (h : openAfter? depth ts = some final) (item rest : List Token) :
    items (depth + 1) item (ts ++ rest) = items (final + 1) (item ++ ts) rest := by
  fun_induction openAfter? depth ts generalizing item with
  | case1 depth =>
      cases h
      simp
  | case2 depth ts ih =>
      rw [List.cons_append, items, if_neg (by simp), depthAfter, ih h]
      simp
  | case3 => cases h
  | case4 depth ts ih =>
      rw [List.cons_append, items, if_neg (by simp), depthAfter, Nat.add_sub_cancel, ih h]
      simp
  | case5 depth t ts hopen hfirst hclose ih =>
      have hdepth : depthAfter (depth + 1) t = depth + 1 := by
        apply depthAfter.eq_3
        · exact hopen
        · rintro rfl
          cases depth with
          | zero => exact hfirst rfl rfl
          | succ depth => exact hclose depth rfl rfl
      rw [List.cons_append, items, if_neg (by simp), hdepth, ih h]
      simp

namespace Undivided

theorem append {ts us : List Token} (hts : Undivided ts) (hus : Undivided us) :
    Undivided (ts ++ us) := by
  intro item rest
  rw [List.append_assoc, hts, hus, List.append_assoc]

theorem of_forall {ts : List Token}
    (h : ∀ t ∈ ts, t ∉ [Token.symbol '(', .symbol ')', .symbol ',']) : Undivided ts := by
  intro item rest
  induction ts generalizing item with
  | nil => simp
  | cons t ts ih =>
      have ht := h t (by simp)
      simp only [List.mem_cons, List.not_mem_nil, or_false, not_or] at ht
      have hdepth : depthAfter 0 t = 0 := depthAfter.eq_3 0 t ht.1 ht.2.1
      rw [List.cons_append, items, if_neg (by simp [ht.2.2]), hdepth,
        ih fun u hu => h u (List.mem_cons_of_mem t hu)]
      simp

theorem parenthesized {ts : List Token} (hts : Enclosed ts) :
    Undivided (parenthesized ts) := by
  intro item rest
  have hinside : openAfter? 0 ts = some 0 := by simpa [openAfter?] using hts.returns 0 []
  calc items 0 item (Sql.parenthesized ts ++ rest)
    _ = items 1 (item ++ [.symbol '(']) (ts ++ .symbol ')' :: rest) := by
      simp [Sql.parenthesized, items, depthAfter]
    _ = items 1 (item ++ [.symbol '('] ++ ts) (.symbol ')' :: rest) :=
      items_of_openAfter? hinside _ _
    _ = items 0 (item ++ Sql.parenthesized ts) rest := by
      simp [Sql.parenthesized, items, depthAfter]

end Undivided

/-- Listed items are found again. -/
theorem items_listed {tss : List (List Token)} (hne : tss ≠ [])
    (h : ∀ ts ∈ tss, Undivided ts) : items 0 [] (listed tss) = tss := by
  induction tss with
  | nil => exact absurd rfl hne
  | cons first tss ih =>
      have hfirst := h first (by simp)
      cases tss with
      | nil => simpa [listed, List.intercalate, items] using hfirst [] []
      | cons second tss =>
          have hrest := ih (by simp) fun ts hts => h ts (List.mem_cons_of_mem first hts)
          rw [listed_cons_cons, hfirst, List.singleton_append, items, if_pos ⟨rfl, rfl⟩, hrest,
            List.nil_append]

end Sql

/-! ## What assignments do -/

namespace Assignment

/-- What the assignment does to its column. -/
def columnWrite : Assignment → ColumnWrite
  | .whole column value => .replaced column value.token
  | .merge column changes => .merged column (changes.map fun (path, value) => (path, value.argument))

theorem undivided_tokens (assignment : Assignment) : Undivided assignment.tokens := by
  cases assignment with
  | whole column value =>
      apply Undivided.of_forall
      cases value <;> simp [tokens, Value.token]
  | merge column changes =>
      have hhead : Undivided [.identifier column, .symbol '=', .word "JSON_SET"] :=
        Undivided.of_forall (by simp)
      exact hhead.append (Undivided.parenthesized (enclosed_mergeBody column changes))

theorem columnWrite?_tokens (assignment : Assignment) :
    columnWrite? assignment.tokens = some assignment.columnWrite := by
  cases assignment with
  | whole column value =>
      have hnone : merge? (whole column value).tokens = none := by
        simp [tokens, merge?]
      unfold columnWrite?
      rw [hnone]
      rfl
  | merge column changes =>
      unfold columnWrite?
      rw [merge?_tokens]
      rfl

end Assignment

/-- The items of the SET clause are the tokens of the assignments. -/
theorem Statement.items_takeWhile_assignments {assignments : List Assignment} (hne : assignments ≠ [])
    (rest : List Token) :
    items 0 [] ((listed (assignments.map Assignment.tokens) ++ .word "WHERE" :: rest).takeWhile
        (· != .word "WHERE")) =
      assignments.map Assignment.tokens := by
  rw [takeWhile_assignments]
  apply items_listed (by simpa using hne)
  intro ts hts
  obtain ⟨assignment, -, rfl⟩ := List.mem_map.mp hts
  exact assignment.undivided_tokens

theorem Statement.tokens_update (table : String) (assignments : List Assignment)
    (filter : Condition) :
    (Statement.update table assignments filter).tokens =
      .word "UPDATE" :: .identifier table :: .word "SET" ::
        (listed (assignments.map Assignment.tokens) ++
          .word "WHERE" :: (filter.tokens ++ [.symbol ';'])) := by
  simp [tokens, body]

theorem Statement.columnWrites?_update (table : String) {assignments : List Assignment}
    (hne : assignments ≠ []) (filter : Condition) :
    columnWrites? (Statement.update table assignments filter).tokens =
      some (assignments.map Assignment.columnWrite) := by
  rw [Statement.tokens_update, columnWrites?, items_takeWhile_assignments hne, List.mapM_map]
  simp only [Function.comp_def, Assignment.columnWrite?_tokens]
  exact List.mapM_pure

/-! ## Updates -/

section Updates

variable {settings : Settings} {r : Resource} {present : Attributes} {revision : Revision}
  {filter : Condition} {compiled : Compiled} {entry : String × Value}

/-- An update does to columns what its effective changes do, in their order. -/
theorem exists_columnWritesOf?_update
    (h : compile settings r (.update revision filter) = .ok compiled) :
    ∃ changes, revision.changes r.attributes = .ok changes ∧
      columnWritesOf? compiled.sql =
        some ((changes.effectiveOn r.attributes).map fun entry =>
          (Assignment.ofEffective r.attributes entry).columnWrite) := by
  obtain ⟨changes, hchanges, hne, htokens⟩ := exists_lex?_update h
  refine ⟨changes, hchanges, ?_⟩
  rw [columnWritesOf?, htokens, Option.bind_some, Statement.columnWrites?_update _ hne,
    Assignment.ofChanges_eq_map, List.map_map]
  rfl

theorem Value.isObject_iff {v : Value} : v.isObject = true ↔ ∃ members, v = .object members := by
  cases v <;> simp [isObject]

/-- A change has nothing to set only if it is an object and meets one. -/
theorem Value.exists_of_isVoid {v : Value} {old : Option Value} (h : v.isVoid old = true) :
    ∃ inner, old = some (.object inner) := by
  rcases v.meets_object_or old with ⟨members, inner, -, hinner⟩ | hleaf
  · exact ⟨inner, hinner⟩
  · rw [isVoid.eq_2 _ _ hleaf] at h
    cases h

theorem Attributes.mem_effectiveOn_or {changes : Attributes} (hentry : entry ∈ changes.entries)
    (present : Option Attributes) :
    entry ∈ changes.effectiveOn present ∨
      entry.2.isVoid (present.bind (·.get? entry.1)) = true := by
  cases hvoid : entry.2.isVoid (present.bind (·.get? entry.1)) with
  | false => exact Or.inl (List.mem_filter.mpr ⟨hentry, by simp [hvoid]⟩)
  | true => exact Or.inr rfl

namespace Sql.ColumnWrite

theorem carries_ofEffective (present : Attributes) (entry : String × Value) :
    Carries present entry (Assignment.ofEffective (some present) entry).columnWrite := by
  rcases entry.2.meets_object_or (present.get? entry.1) with
    ⟨members, inner, hmembers, hinner⟩ | hleaf
  · have hmerge : Assignment.ofEffective (some present) entry = _ :=
      Assignment.ofEffective_of_objects hmembers hinner
    rw [hmerge]
    exact ⟨rfl, members, inner, hmembers, hinner, rfl⟩
  · have hwhole : Assignment.ofEffective (some present) entry = _ :=
      Assignment.ofEffective_of_leaf hleaf
    rw [hwhole]
    exact ⟨rfl, rfl, hleaf⟩

/-- The siblings of a changed object are kept if and only if the object that the column holds
is that of the attribute with the name of the change. -/
theorem keepsSiblings_iff {write : ColumnWrite} (h : write.Carries present entry) :
    write.KeepsSiblings present entry ↔
      (entry.2.isObject = true → present.HoldsObject (StorageName.column entry.1) →
        ∃ inner, present.get? entry.1 = some (.object inner)) := by
  cases write with
  | merged column places =>
      obtain ⟨rfl, members, inner, hmembers, hinner, rfl⟩ := h
      refine iff_of_true ?_ fun _ _ => ⟨inner, hinner⟩
      intro changed hchanged _
      rw [hmembers] at hchanged
      cases hchanged
      refine ⟨_, rfl, ?_⟩
      intro place hplace
      obtain ⟨found, hfound, rfl⟩ := List.mem_map.mp hplace
      obtain ⟨name, hname, rest, hpath⟩ := Value.exists_cons_of_mem_placesInBag hfound
      exact ⟨name, hname, by simp [hpath]⟩
  | replaced column value =>
      obtain ⟨-, -, hapart⟩ := h
      constructor
      · intro hkeeps hobject hholds
        obtain ⟨members, hmembers⟩ := Value.isObject_iff.mp hobject
        obtain ⟨places, hwrite, -⟩ := hkeeps members hmembers hholds
        cases hwrite
      · intro hnamed members hmembers hholds
        obtain ⟨inner, hinner⟩ := hnamed (Value.isObject_iff.mpr ⟨members, hmembers⟩) hholds
        exact (hapart members inner hmembers hinner).elim

end Sql.ColumnWrite

end Updates

/-- The text of an update on a resource with attributes says of each effective change what is
done to its column.  Every object that is to change an object of the resource's keeps the
siblings there if and only if the attribute that holds it has the name of the change, and not
only its column. -/
theorem update_keepsSiblings_iff {settings : Settings} {r : Resource} {present : Attributes}
    {revision : Revision} {filter : Condition} {compiled : Compiled}
    (hr : r.attributes = some present)
    (h : compile settings r (.update revision filter) = .ok compiled) :
    ∃ changes writes, revision.changes (some present) = .ok changes ∧
      columnWritesOf? compiled.sql = some writes ∧
      List.Forall₂ (ColumnWrite.Carries present) (changes.effectiveOn (some present)) writes ∧
      (List.Forall₂ (ColumnWrite.KeepsSiblings present) (changes.effectiveOn (some present)) writes ↔
        ∀ entry ∈ changes.entries, entry.2.isObject = true →
          present.HoldsObject (StorageName.column entry.1) →
            ∃ inner, present.get? entry.1 = some (.object inner)) := by
  obtain ⟨changes, hchanges, hwrites⟩ := exists_columnWritesOf?_update h
  rw [hr] at hchanges hwrites
  have hcarries := ColumnWrite.carries_ofEffective present
  refine ⟨changes, _, hchanges, hwrites, ?_, ?_⟩
  · rw [List.forall₂_map_right_iff, List.forall₂_same]
    intro entry _
    exact hcarries entry
  · rw [List.forall₂_map_right_iff, List.forall₂_same]
    constructor
    · intro hkeeps entry hentry
      rcases Attributes.mem_effectiveOn_or hentry (some present) with heffective | hvoid
      · exact (ColumnWrite.keepsSiblings_iff (hcarries entry)).mp (hkeeps entry heffective)
      · intro _ _
        exact Value.exists_of_isVoid hvoid
    · intro hnamed entry hentry
      exact (ColumnWrite.keepsSiblings_iff (hcarries entry)).mpr
        (hnamed entry (List.mem_of_mem_filter hentry))

/-- Attributes with an address, and with a document beside it. -/
def addressed : Attributes :=
  ⟨[("homeAddress", .object ⟨[("city", .text "Seoul"), ("zip", .text "04524"),
      ("geo", .object ⟨[("lat", .int 37), ("lng", .int 126)]⟩)]⟩),
    ("meta", .object ⟨[("tag", .null)]⟩)]⟩

/-- A move within the address, with nothing to set in the document. -/
def moved : Attributes :=
  ⟨[("meta", .object ⟨[]⟩),
    ("homeAddress", .object ⟨[("geo", .object ⟨[("lat", .int 35)]⟩), ("city", .text "Busan")]⟩)]⟩

theorem update_keepsSiblings_iff_moved :
    let r : Resource := { typeName := "test", id := some "x", attributes := some addressed }
    let filter := Condition.compare "id" .equals (.text "x") false
    ∃ compiled writes, compile {} r (.update (.given moved) filter) = .ok compiled ∧
      columnWritesOf? compiled.sql = some writes ∧
      List.Forall₂ (ColumnWrite.Carries addressed) (moved.effectiveOn (some addressed)) writes ∧
      List.Forall₂ (ColumnWrite.KeepsSiblings addressed) (moved.effectiveOn (some addressed))
        writes := by
  intro r filter
  obtain ⟨compiled, hcompiled⟩ : ∃ compiled,
      compile {} r (.update (.given moved) filter) = .ok compiled := ⟨_, rfl⟩
  obtain ⟨changes, writes, hchanges, hwrites, hcarries, hiff⟩ :=
    update_keepsSiblings_iff rfl hcompiled
  cases hchanges
  refine ⟨compiled, writes, hcompiled, hwrites, hcarries, hiff.mpr ?_⟩
  intro entry hentry _ _
  simp only [moved, List.mem_cons, List.not_mem_nil, or_false] at hentry
  rcases hentry with rfl | rfl
  · exact ⟨_, rfl⟩
  · exact ⟨_, rfl⟩

/-- The attributes that a stored row gives, under the names of their columns. -/
def storedAddress : Attributes :=
  ⟨[("home_address", .object ⟨[("city", .text "Seoul"), ("zip", .text "04524")]⟩)]⟩

/-- A change of the stored address under another name with its column. -/
def otherSpelling : Attributes := ⟨[("homeAddress", .object ⟨[("city", .text "Busan")]⟩)]⟩

/-- The text of the update by that change. -/
def replacedAddress : String :=
  "UPDATE `tests` SET `home_address` = " ++
    "\x27\x7b\\\"city\\\":\\\"Busan\\\"\x7d\x27 WHERE `id` = \x27x\x27;"

/-- The address is replaced, and its second member is lost. -/
theorem not_keepsSiblings_otherSpelling :
    let r : Resource := { typeName := "test", id := some "x", attributes := some storedAddress }
    let filter := Condition.compare "id" .equals (.text "x") false
    ∃ compiled writes, compile {} r (.update (.given otherSpelling) filter) = .ok compiled ∧
      compiled.sql = replacedAddress ∧ columnWritesOf? compiled.sql = some writes ∧
      ¬ List.Forall₂ (ColumnWrite.KeepsSiblings storedAddress)
        (otherSpelling.effectiveOn (some storedAddress)) writes := by
  intro r filter
  obtain ⟨compiled, hcompiled⟩ : ∃ compiled,
      compile {} r (.update (.given otherSpelling) filter) = .ok compiled := ⟨_, rfl⟩
  have hsql : (compile {} r (.update (.given otherSpelling) filter)).toOption.map (·.sql) =
      some replacedAddress := by
    decide +kernel
  rw [hcompiled] at hsql
  have htext : compiled.sql = replacedAddress := Option.some.inj hsql
  have hwrites : columnWritesOf? compiled.sql =
      some [.replaced "home_address" (.text "\x7b\"city\":\"Busan\"\x7d")] := by
    rw [htext]
    decide +kernel
  refine ⟨compiled, _, hcompiled, htext, hwrites, ?_⟩
  intro hkeeps
  have hfirst : ColumnWrite.KeepsSiblings storedAddress
      ("homeAddress", .object ⟨[("city", .text "Busan")]⟩) _ := (List.forall₂_cons.mp hkeeps).1
  have hholds : storedAddress.HoldsObject (StorageName.column "homeAddress") := by
    refine ⟨_, List.mem_singleton.mpr rfl, ?_, rfl⟩
    decide +kernel
  obtain ⟨places, hmerged, -⟩ := hfirst _ rfl hholds
  cases hmerged

end ResourceSql
