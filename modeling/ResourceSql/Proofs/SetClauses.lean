import ResourceSql.Proofs.EffectiveChanges
import ResourceSql.Proofs.LoggedStatements

/-!
# SET clauses in one buffer

The loop that writes changes into one buffer gives the texts of their assignments with commas
between them.  A step leaves the buffer as it is if the change asks for no assignment, and
otherwise adds its text; a run is then a fold of such additions.  Since no assignment has an
empty text, the buffer ends up empty if and only if there is nothing to set.
-/

namespace ResourceSql

/-! ## Cutting back -/

namespace Boundary

/-- A front of a front that is as long is all of it. -/
theorem eq_of_toList_eq_append {s front : String} {back : List Char}
    (h : s.toList = front.toList ++ back) (hsize : s.utf8ByteSize ≤ front.utf8ByteSize) :
    s = front := by
  have hs : s = front ++ String.ofList back := by
    rw [← String.toList_inj, h, String.toList_append, String.toList_ofList]
  have htotal := congrArg String.utf8ByteSize hs
  rw [String.utf8ByteSize_append] at htotal
  have hempty : String.ofList back = "" := String.utf8ByteSize_eq_zero_iff.mp (by omega)
  rw [hs, hempty, String.append_empty]

/-- A text that was written on is cut back to what it was. -/
theorem front_append (s t : String) : front (s ++ t) s.utf8ByteSize = s := by
  obtain ⟨⟨back, hback⟩, hfits, hlongest⟩ := longestFront_front (s ++ t) s.utf8ByteSize
  have hsize : s.utf8ByteSize ≤ (front (s ++ t) s.utf8ByteSize).utf8ByteSize :=
    hlongest s t rfl (Nat.le_refl _)
  have hlists : s.toList ++ t.toList =
      (front (s ++ t) s.utf8ByteSize).toList ++ back.toList := by
    rw [← String.toList_append, ← String.toList_append, ← hback]
  rcases List.append_eq_append_iff.mp hlists with ⟨more, hcut, -⟩ | ⟨more, hs, -⟩
  · exact eq_of_toList_eq_append hcut hfits
  · exact (eq_of_toList_eq_append hs hsize).symm

end Boundary

namespace SetClause

variable {present : Option Attributes} {buffer : String}

/-! ## One change -/

/-- Texts that are added one after the other stand joined. -/
theorem foldlM_append {α : Type} (write : α → Except Failure String) (items : List α)
    (start : String) :
    (items.foldlM (fun written a => do
        let text ← write a
        return written ++ text) start) =
      (do
        let texts ← items.mapM write
        return start ++ String.join texts) := by
  induction items generalizing start with
  | nil => simp
  | cons a items ih =>
      rw [List.foldlM_cons, List.mapM_cons]
      cases write a with
      | error cause => rfl
      | ok text =>
          refine (ih (start ++ text)).trans ?_
          cases items.mapM write with
          | error cause => rfl
          | ok texts =>
              change Except.ok (start ++ text ++ String.join texts) =
                Except.ok (start ++ String.join (text :: texts))
              rw [String.join_cons, String.append_assoc]

theorem sql_merge (column : String) (places : List (JsonPath × Value)) :
    (Assignment.merge column places).sql = (do
      let texts ← places.mapM fun place => Sql.placed place.1 place.2
      return Sql.identifier column ++ " = JSON_SET(" ++ Sql.identifier column ++
        String.join texts ++ ")") := rfl

theorem sql_whole (column : String) (value : Value) :
    (Assignment.whole column value).sql = (do
      let text ← value.sql
      return Sql.identifier column ++ " = " ++ text) := rfl

/-- An object over an object is written as the merge of its places, if there are any. -/
theorem write_objects (text column : String) (members inner : Bag Value) :
    write text column (some (.object inner)) (.object members) =
      if (Value.placesInBag [] members inner).isEmpty then
        .ok (text ++ Sql.identifier column ++ " = ", false)
      else do
        let written ← (Assignment.merge column (Value.placesInBag [] members inner)).sql
        return (text ++ written, true) := by
  unfold write
  dsimp only
  split_ifs with hempty
  · rfl
  · have hsplit : " = JSON_SET(" = " = " ++ "JSON_SET(" := rfl
    rw [foldlM_append, sql_merge, hsplit]
    simp only [bind_assoc, pure_bind, String.append_assoc]

/-- Every other change is written as the value of its column. -/
theorem write_leaf (text column : String) {old : Option Value} {change : Value}
    (hleaf : ∀ members inner, change = .object members → old = some (.object inner) → False) :
    write text column old change = (do
      let written ← (Assignment.whole column change).sql
      return (text ++ written, true)) := by
  unfold write
  dsimp only
  split
  · exact (hleaf _ _ rfl rfl).elim
  · rw [sql_whole]
    simp only [bind_assoc, pure_bind, String.append_assoc]

/-- A change is written as its assignment, if it asks for one. -/
theorem write_eq (text name : String) (old : Option Value) (change : Value) :
    write text (StorageName.column name) old change =
      match Assignment.ofChange? old name change with
      | none => .ok (text ++ Sql.identifier (StorageName.column name) ++ " = ", false)
      | some assignment => do
        let written ← assignment.sql
        return (text ++ written, true) := by
  rcases change.meets_object_or old with ⟨members, inner, rfl, rfl⟩ | hleaf
  · rw [write_objects]
    unfold Assignment.ofChange?
    dsimp only
    split_ifs <;> rfl
  · rw [Assignment.ofChange?_of_leaf hleaf, write_leaf _ _ hleaf]

theorem exists_separated_eq (buffer : String) : ∃ comma, separated buffer = buffer ++ comma := by
  unfold separated
  split_ifs
  · exact ⟨"", String.append_empty.symm⟩
  · exact ⟨", ", rfl⟩

/-- A step adds the text of a change's assignment, and leaves the buffer as it is if the change
asks for none. -/
theorem step_eq (present : Option Attributes) (buffer : String) (entry : String × Value) :
    step present buffer entry =
      match Assignment.ofChange? (present.bind (·.get? entry.1)) entry.1 entry.2 with
      | none => .ok buffer
      | some assignment => do
        let text ← assignment.sql
        return separated buffer ++ text := by
  obtain ⟨comma, hcomma⟩ := exists_separated_eq buffer
  unfold step
  dsimp only
  rw [write_eq]
  cases Assignment.ofChange? (present.bind (·.get? entry.1)) entry.1 entry.2 with
  | none =>
      have hcut := Boundary.front_append buffer
        (comma ++ Sql.identifier (StorageName.column entry.1) ++ " = ")
      rw [← String.append_assoc, ← String.append_assoc, ← hcomma] at hcut
      exact congrArg Except.ok hcut
  | some assignment =>
      dsimp only
      simp only [bind_assoc, pure_bind, if_true]

/-! ## All changes -/

/-- A run adds the texts of the assignments that the changes ask for. -/
theorem run_eq (present : Option Attributes) (buffer : String) (entries : List (String × Value)) :
    run present buffer entries = (do
      let texts ← (entries.filterMap fun entry =>
        Assignment.ofChange? (present.bind (·.get? entry.1)) entry.1 entry.2).mapM Assignment.sql
      return texts.foldl (fun buffer text => separated buffer ++ text) buffer) := by
  unfold run
  induction entries generalizing buffer with
  | nil => rfl
  | cons entry entries ih =>
      rw [List.foldlM_cons, step_eq, List.filterMap_cons]
      cases Assignment.ofChange? (present.bind (·.get? entry.1)) entry.1 entry.2 with
      | none => exact ih buffer
      | some assignment =>
          dsimp only
          rw [List.mapM_cons]
          simp only [bind_assoc, pure_bind, ih, List.foldl_cons]

/-- No assignment has an empty text. -/
theorem ne_empty_of_sql {assignment : Assignment} {text : String}
    (h : assignment.sql = .ok text) : text ≠ "" := by
  have hquoted : ∀ column rest, Sql.identifier column ++ rest ≠ "" := by
    intro column rest hempty
    have hfront := (String.append_eq_empty_iff.mp hempty).1
    simp [Sql.identifier, ← String.toList_inj] at hfront
  cases assignment with
  | whole column value =>
      rw [sql_whole] at h
      obtain ⟨literal, -, h⟩ := Failure.exists_of_bind_eq_ok h
      cases h
      rw [String.append_assoc]
      exact hquoted column _
  | merge column places =>
      rw [sql_merge] at h
      obtain ⟨texts, -, h⟩ := Failure.exists_of_bind_eq_ok h
      cases h
      simp only [String.append_assoc]
      exact hquoted column _

theorem notMem_of_mapM {assignments : List Assignment} {texts : List String}
    (h : assignments.mapM Assignment.sql = .ok texts) : "" ∉ texts := by
  induction assignments generalizing texts with
  | nil =>
      cases h
      exact List.not_mem_nil
  | cons assignment assignments ih =>
      rw [List.mapM_cons] at h
      obtain ⟨text, htext, h⟩ := Failure.exists_of_bind_eq_ok h
      obtain ⟨rest, hrest, h⟩ := Failure.exists_of_bind_eq_ok h
      cases h
      exact List.not_mem_cons_of_ne_of_not_mem (ne_empty_of_sql htext).symm (ih hrest)

theorem eq_nil_of_mapM {assignments : List Assignment}
    (h : assignments.mapM Assignment.sql = .ok []) : assignments = [] := by
  cases assignments with
  | nil => rfl
  | cons assignment assignments =>
      rw [List.mapM_cons] at h
      obtain ⟨text, -, h⟩ := Failure.exists_of_bind_eq_ok h
      obtain ⟨rest, -, h⟩ := Failure.exists_of_bind_eq_ok h
      cases h

/-- Texts that are added to a buffer that is not empty stand behind it, with commas. -/
theorem foldl_separated {texts : List String} (hbuffer : buffer ≠ "") :
    texts.foldl (fun buffer text => separated buffer ++ text) buffer =
      String.intercalate ", " (buffer :: texts) := by
  induction texts generalizing buffer with
  | nil => rw [List.foldl_nil, String.intercalate_singleton]
  | cons text texts ih =>
      have hseparated : separated buffer = buffer ++ ", " :=
        if_neg (by simpa [String.isEmpty_iff] using hbuffer)
      have hne : buffer ++ ", " ++ text ≠ "" := by
        simp [String.append_eq_empty_iff, hbuffer]
      rw [List.foldl_cons, hseparated, ih hne, String.intercalate_cons_append,
        String.intercalate_cons_cons]

/-- Texts that are added to an empty buffer are joined by commas. -/
theorem foldl_separated_empty {texts : List String} (htexts : "" ∉ texts) :
    texts.foldl (fun buffer text => separated buffer ++ text) "" =
      String.intercalate ", " texts := by
  cases texts with
  | nil => rw [List.foldl_nil, String.intercalate_nil]
  | cons text texts =>
      have hne : text ≠ "" := (List.ne_of_not_mem_cons htexts).symm
      have hseparated : separated "" ++ text = text := String.empty_append
      rw [List.foldl_cons, hseparated, foldl_separated hne]

theorem intercalate_ne_empty {texts : List String} (hne : texts ≠ []) (htexts : "" ∉ texts) :
    String.intercalate ", " texts ≠ "" := by
  cases texts with
  | nil => exact (hne rfl).elim
  | cons text texts =>
      have htext : text ≠ "" := (List.ne_of_not_mem_cons htexts).symm
      cases texts with
      | nil => rwa [String.intercalate_singleton]
      | cons next texts =>
          rw [String.intercalate_cons_cons]
          simp [String.append_eq_empty_iff, htext]

/-- The joined texts of some assignments are not empty. -/
theorem isEmpty_intercalate_of_mapM {assignments : List Assignment} {texts : List String}
    (hassignments : assignments ≠ []) (h : assignments.mapM Assignment.sql = .ok texts) :
    (String.intercalate ", " texts).isEmpty = false := by
  rw [String.isEmpty_eq_false_iff]
  apply intercalate_ne_empty ?_ (notMem_of_mapM h)
  rintro rfl
  exact hassignments (eq_nil_of_mapM h)

/-- A run over an empty buffer joins the texts of the assignments. -/
theorem run_empty_eq (present : Option Attributes) (changes : Attributes) :
    run present "" changes.entries = (do
      let texts ← (Assignment.ofChanges present changes).mapM Assignment.sql
      return String.intercalate ", " texts) := by
  refine (run_eq present "" changes.entries).trans ?_
  change (do
      let texts ← (Assignment.ofChanges present changes).mapM Assignment.sql
      return texts.foldl (fun buffer text => separated buffer ++ text) "") = _
  cases htexts : (Assignment.ofChanges present changes).mapM Assignment.sql with
  | error cause => rfl
  | ok texts => exact congrArg Except.ok (foldl_separated_empty (notMem_of_mapM htexts))

example :
    (run (some ⟨[("a", .object ⟨[]⟩)]⟩) ""
      [("a", .object ⟨[]⟩), ("b", .null), ("a", .object ⟨[]⟩), ("c", .null)]).toOption =
        some "`b` = NULL, `c` = NULL" := by
  decide +kernel

end SetClause

/-- An update whose clause is written into one buffer has the text, or the failure, of the
compiled update. -/
theorem SetClause.update_eq_compile (settings : Settings) (r : Resource) (revision : Revision)
    (filter : Condition) :
    SetClause.update r revision filter =
      (compile settings r (.update revision filter)).map (·.sql) := by
  rw [map_sql_compile_eq]
  unfold SetClause.update
  cases hchanges : revision.changes r.attributes with
  | error cause =>
      rw [Request.statement, hchanges]
      rfl
  | ok changes =>
      rw [Request.statement_update changes hchanges]
      change (do
        let buffer ← run r.attributes "" changes.entries
        _) = _
      rw [run_empty_eq]
      split_ifs with hempty
      · have hnone : Assignment.ofChanges r.attributes changes = [] := by simpa using hempty
        rw [hnone]
        rfl
      · change _ = (Statement.update r.table (Assignment.ofChanges r.attributes changes) filter).sql
        unfold Statement.sql
        dsimp only
        cases htexts : (Assignment.ofChanges r.attributes changes).mapM Assignment.sql with
        | error cause => rfl
        | ok texts =>
            have hbuffer : (String.intercalate ", " texts).isEmpty = false :=
              isEmpty_intercalate_of_mapM (by simpa using hempty) htexts
            change (if (String.intercalate ", " texts).isEmpty = true then _ else _) = _
            rw [hbuffer]
            rfl

end ResourceSql
