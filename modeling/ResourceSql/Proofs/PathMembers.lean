import ResourceSql.Proofs.Json.Strings
import ResourceSql.Proofs.SiblingMembers
import ResourceSql.Sql.StrictPath
import ResourceSql.Value.Change

/-!
# Members of paths

A member of a path escapes quotes and backslashes, as a string of JSON must, but no control
character.  So it is well-formed if and only if there is none in the name, and a database that
holds to the grammar takes exactly the paths without such names for what they are.
-/

namespace ResourceSql

open Sql

namespace JsonPath

/-! ## Members -/

theorem not_isPlainChar_of_lt : ∀ code < 32, isPlainChar (Char.ofNat code) = false := by decide

theorem isWord_of_isPlain {name : String} (h : isPlain name = true) : IsWord name.toList := by
  obtain ⟨hhead, hall⟩ := Bool.and_eq_true_iff.mp h
  obtain ⟨c, hc, hfirst⟩ := (Option.any_eq_true _ _).mp hhead
  obtain ⟨rest, hname⟩ := List.head?_eq_some_iff.mp hc
  refine ⟨c, rest, hname, ?_, ?_⟩
  · simp only [isPlainChar, Char.isAlphanum, Bool.and_eq_true, Bool.or_eq_true, beq_iff_eq,
      Bool.not_eq_true'] at hfirst
    obtain ⟨(halpha | hdigit) | hline, hnodigit⟩ := hfirst
    · exact Or.inl halpha
    · rw [hdigit] at hnodigit
      cases hnodigit
    · exact Or.inr hline
  · intro d hd
    rw [hname] at hall
    simpa [isPlainChar] using List.all_eq_true.mp hall d (List.mem_cons_of_mem c hd)

theorem isFreeOfControls_iff {name : String} :
    isFreeOfControls name = true ↔ ∀ c ∈ name.toList, 32 ≤ c.toNat := by
  simp [isFreeOfControls]

theorem isFreeOfControls_of_isPlain {name : String} (h : isPlain name = true) :
    isFreeOfControls name = true := by
  obtain ⟨-, hall⟩ := Bool.and_eq_true_iff.mp h
  rw [isFreeOfControls_iff]
  intro c hc
  by_contra hlt
  have hplain := List.all_eq_true.mp hall c hc
  have hnot := not_isPlainChar_of_lt c.toNat (by omega)
  rw [Char.ofNat_toNat, hplain] at hnot
  cases hnot

/-- Only control characters are escaped in strings of JSON and not in members. -/
theorem escaped_eq {c : Char} (h : 32 ≤ c.toNat) : escaped c = Json.escaped c := by
  unfold escaped Json.escaped
  split_ifs with hquote hb hf hn hr ht hcontrol
  · rfl
  · exact absurd (hb ▸ h) (by decide)
  · exact absurd (hf ▸ h) (by decide)
  · exact absurd (hn ▸ h) (by decide)
  · exact absurd (hr ▸ h) (by decide)
  · exact absurd (ht ▸ h) (by decide)
  · omega
  · rfl

theorem escaped_of_lt {c : Char} (h : c.toNat < 32) : escaped c = [c] := by
  unfold escaped
  rw [if_neg]
  rintro (rfl | rfl)
  · exact absurd h (by decide)
  · exact absurd h (by decide)

/-- What stands between the quotes of a member is a string of JSON if and only if there is no
control character in it, and then it means the name. -/
theorem stringBody?_flatMap_escaped (cs rest : List Char) :
    Written.stringBody? (cs.flatMap escaped ++ '\x22' :: rest) =
      if cs.all fun c => decide (32 ≤ c.toNat) then some (cs, rest) else none := by
  induction cs with
  | nil => rfl
  | cons c cs ih =>
      rw [List.flatMap_cons, List.append_assoc, List.all_cons]
      by_cases hc : 32 ≤ c.toNat
      · rw [escaped_eq hc, Written.stringBody?_escaped, ih, decide_eq_true hc, Bool.true_and]
        split_ifs <;> rfl
      · rw [escaped_of_lt (by omega), List.singleton_append,
          Written.stringBody?_control (by omega), decide_eq_false hc]
        rfl

theorem stringBody?_name (name : String) (rest : List Char) :
    Written.stringBody? (name.toList.flatMap escaped ++ '\x22' :: rest) =
      if isFreeOfControls name then some (name.toList, rest) else none :=
  stringBody?_flatMap_escaped name.toList rest

/-- A member is well-formed for its name if and only if this has no control character. -/
theorem wellFormed_member_iff (name : String) :
    WellFormed name (member name) ↔ isFreeOfControls name = true := by
  have hstring := stringBody?_name name []
  unfold member
  split_ifs with hplain
  · exact iff_of_true (Or.inl ⟨rfl, isWord_of_isPlain hplain⟩) (isFreeOfControls_of_isPlain hplain)
  · constructor
    · rintro (⟨hname, c, rest, hquoted, hword, -⟩ | ⟨body, hquoted, hbody⟩)
      · -- A quote does not start a word.
        cases hquoted
        exact absurd hword (by decide)
      · cases hquoted
        have hread := hstring.symm.trans hbody
        by_contra hcontrol
        rw [if_neg hcontrol] at hread
        cases hread
    · intro hfree
      rw [hfree] at hstring
      exact Or.inr ⟨_, rfl, hstring⟩

/-! ## Paths -/

/-- Nothing follows a member, or another member does. -/
def Continues (rest : List Char) : Prop := rest = [] ∨ rest.head? = some '.'

theorem names?_word {name : String} (h : isPlain name = true) {rest : List Char}
    (hrest : Continues rest) (bound : Nat) :
    names? (bound + 1) ('.' :: (name.toList ++ rest)) = (names? bound rest).map (name :: ·) := by
  obtain ⟨c, word, hname, hfirst, -⟩ := isWord_of_isPlain h
  have hquote : c ≠ '\x22' := by
    rintro rfl
    exact absurd hfirst (by decide)
  have hall : ∀ d ∈ name.toList, isPlainChar d = true :=
    List.all_eq_true.mp (Bool.and_eq_true_iff.mp h).2
  have hstop : rest.takeWhile isPlainChar = [] ∧ rest.dropWhile isPlainChar = rest := by
    rcases hrest with rfl | hdot
    · exact ⟨rfl, rfl⟩
    · obtain ⟨more, rfl⟩ := List.head?_eq_some_iff.mp hdot
      exact ⟨rfl, rfl⟩
  rw [names?.eq_3]
  · rw [List.takeWhile_append_of_pos hall, List.dropWhile_append_of_pos hall, hstop.1, hstop.2,
      List.append_nil, String.ofList_toList, if_pos h]
    cases names? bound rest <;> rfl
  · intro body hbody
    rw [hname] at hbody
    exact hquote (List.cons.inj hbody).1

theorem names?_quotedMember (name : String) (rest : List Char) (bound : Nat) :
    names? (bound + 1) ('.' :: (quotedMember name ++ rest)) =
      if isFreeOfControls name then (names? bound rest).map (name :: ·) else none := by
  rw [quotedMember, List.cons_append, List.cons_append, List.append_assoc, List.singleton_append,
    names?, stringBody?_name]
  split_ifs
  · rw [Option.bind_eq_bind, Option.bind_some]
    dsimp only
    rw [String.ofList_toList]
    cases names? bound rest <;> rfl
  · rfl

theorem names?_member (name : String) {rest : List Char} (hrest : Continues rest) (bound : Nat) :
    names? (bound + 1) ('.' :: (member name ++ rest)) =
      if isFreeOfControls name then (names? bound rest).map (name :: ·) else none := by
  unfold member
  split_ifs with hplain hfree hfree
  · exact names?_word hplain hrest bound
  · exact absurd (isFreeOfControls_of_isPlain hplain) hfree
  · rw [names?_quotedMember, if_pos hfree]
  · rw [names?_quotedMember, if_neg hfree]

/-- The members of a path are read one by one, and the first name with a control character
ends that. -/
theorem names?_flatMap {path : JsonPath} {bound : Nat} (hbound : path.length ≤ bound) :
    names? bound (path.flatMap fun name => '.' :: member name) =
      if path.all isFreeOfControls then some path else none := by
  induction path generalizing bound with
  | nil => simp [names?]
  | cons name path ih =>
      cases bound with
      | zero => simp at hbound
      | succ bound =>
          have hrest : Continues (path.flatMap fun name => '.' :: member name) := by
            cases path with
            | nil => exact Or.inl rfl
            | cons other path => exact Or.inr rfl
          rw [List.flatMap_cons, List.cons_append, names?_member name hrest,
            ih (Nat.le_of_succ_le_succ hbound), List.all_cons]
          cases isFreeOfControls name <;> cases path.all isFreeOfControls <;> rfl

theorem length_le_length_flatMap (path : JsonPath) :
    path.length ≤ (path.flatMap fun name => '.' :: member name).length := by
  induction path with
  | nil => simp
  | cons name path ih =>
      rw [List.flatMap_cons, List.length_append, List.length_cons, List.length_cons]
      omega

/-- A path is read for what it is unless a name on it has a control character, and then it is
refused. -/
theorem ofStrictText?_text (path : JsonPath) :
    ofStrictText? (text path) = if path.all isFreeOfControls then some path else none := by
  unfold ofStrictText? text
  rw [String.toList_ofList]
  exact names?_flatMap (length_le_length_flatMap path)

end JsonPath

/-! ## Places of changes -/

/-- What a place is set to is what the change has there. -/
theorem Value.at?_of_mem_placesInBag {changes present : Bag Value}
    (hchanges : NamesUnique (.object changes)) {place : JsonPath × Value}
    (h : place ∈ placesInBag [] changes present) :
    (object changes).at? place.1 = some place.2 := by
  induction changes using bagInduction generalizing present place with
  | step changes ih =>
      rw [placesInBag_eq_flatMap] at h
      obtain ⟨entry, hmem, hplace⟩ := List.mem_flatMap.mp h
      have hentry := Bag.get?_of_mem hchanges.unique hmem
      rcases entry.2.meets_object_or (present.get? entry.1) with
        ⟨members, inner, hmembers, hinner⟩ | hleaf
      · rw [hmembers, places_of_object hinner] at hplace
        obtain ⟨below, hbelow, rfl⟩ := List.mem_map.mp hplace
        have hunique := hchanges.of_mem hmem
        rw [hmembers] at hunique
        calc (object changes).at? (entry.1 :: below.1)
          _ = entry.2.at? below.1 := by rw [at?_object_cons, hentry, Option.bind_some]
          _ = some below.2 := by rw [hmembers, ih entry hmem members hmembers hunique hbelow]
      · rw [places.eq_2 _ _ _ hleaf] at hplace
        rw [List.mem_singleton.mp hplace, at?_object_cons, hentry]
        rfl

namespace Attributes

theorem at?_of_mem_mergedPlaces {changes : Attributes} {present : Option Attributes}
    (hchanges : Value.NamesUnique (.object changes)) {place : String × JsonPath × Value}
    (h : place ∈ changes.mergedPlaces present) :
    changes.at? (place.1 :: place.2.1) = some place.2.2 := by
  obtain ⟨⟨name, change⟩, hentry, hplace⟩ := List.mem_flatMap.mp h
  obtain ⟨below, hbelow, rfl⟩ := List.mem_map.mp hplace
  have hget := Bag.get?_of_mem hchanges.unique hentry
  dsimp only at hbelow hget ⊢
  rcases change.meets_object_or (present.bind (·.get? name)) with
    ⟨members, inner, rfl, hinner⟩ | hleaf
  · rw [hinner, Value.mergedPlaces] at hbelow
    rw [Attributes.at?, Value.at?_object_cons, hget, Option.bind_some]
    exact Value.at?_of_mem_placesInBag (hchanges.of_mem hentry) hbelow
  · rw [Value.mergedPlaces.eq_2 _ _ hleaf] at hbelow
    cases hbelow

end Attributes

/-! ## Paths of an update -/

namespace Sql

theorem pathTexts_placeTokens (path : JsonPath) (value : Value) (rest : List Token) :
    pathTexts (placeTokens path value ++ rest) = JsonPath.text path :: pathTexts rest := by
  cases value <;>
    simp [placeTokens, Value.argument, Argument.tokens, parenthesized, pathTexts, Value.token]

theorem pathTexts_flatMap (changes : List (JsonPath × Value)) :
    pathTexts ((changes.flatMap fun (path, value) => placeTokens path value) ++ [.symbol ')']) =
      changes.map fun (path, _) => JsonPath.text path := by
  induction changes with
  | nil => rfl
  | cons change changes ih =>
      rw [List.flatMap_cons, List.append_assoc, pathTexts_placeTokens, ih]
      rfl

theorem mergePaths_whole (column : String) (value : Value) :
    mergePaths (Assignment.whole column value).tokens = [] := by
  simp [Assignment.tokens, mergePaths]

theorem mergePaths_merge (column : String) (changes : List (JsonPath × Value)) :
    mergePaths (Assignment.merge column changes).tokens =
      changes.map fun (path, _) => (column, JsonPath.text path) := by
  have hpaths := pathTexts_flatMap changes
  simp [Assignment.tokens, parenthesized, mergePaths, hpaths]

end Sql

namespace Assignment

/-- A change hands over the paths of its places, if it goes into an object at all. -/
theorem mergePaths_ofChange? (present : Option Value) (name : String) (change : Value) :
    (ofChange? present name change).toList.flatMap (fun a => mergePaths a.tokens) =
      (change.mergedPlaces present).map fun place =>
        (StorageName.column name, JsonPath.text place.1) := by
  rcases change.meets_object_or present with ⟨members, inner, rfl, rfl⟩ | hleaf
  · rw [Value.mergedPlaces]
    unfold ofChange?
    dsimp only
    split_ifs with hempty
    · rw [List.isEmpty_iff.mp hempty]
      rfl
    · rw [Option.toList_some, List.flatMap_singleton, mergePaths_merge]
  · rw [Value.mergedPlaces.eq_2 _ _ hleaf, ofChange?_of_leaf hleaf, Option.toList_some,
      List.flatMap_singleton, mergePaths_whole]
    rfl

theorem mergePaths_ofChanges (present : Option Attributes) (changes : Attributes) :
    (ofChanges present changes).flatMap (fun a => mergePaths a.tokens) =
      (changes.mergedPlaces present).map fun place =>
        (StorageName.column place.1, JsonPath.text place.2.1) := by
  unfold ofChanges Attributes.mergedPlaces
  rw [List.map_flatMap]
  induction changes.entries with
  | nil => rfl
  | cons entry rest ih =>
      obtain ⟨name, change⟩ := entry
      have hfirst := mergePaths_ofChange? (present.bind (·.get? name)) name change
      rw [List.flatMap_cons, ← ih, List.map_map, List.filterMap_cons]
      dsimp only [Function.comp_def]
      rw [← hfirst]
      cases ofChange? (present.bind (·.get? name)) name change <;> simp

end Assignment

/-- The text of an update hands over one path for each place, in order. -/
theorem exists_pathsOf?_update {settings : Settings} {r : Resource} {revision : Revision}
    {filter : Condition} {compiled : Compiled}
    (h : compile settings r (.update revision filter) = .ok compiled) :
    ∃ changes, revision.changes r.attributes = .ok changes ∧
      pathsOf? compiled.sql =
        some ((changes.mergedPlaces r.attributes).map fun place =>
          (StorageName.column place.1, JsonPath.text place.2.1)) := by
  obtain ⟨changes, hchanges, hne, htokens⟩ := exists_lex?_update h
  refine ⟨changes, hchanges, ?_⟩
  rw [pathsOf?, htokens, Option.bind_some, Statement.tokens_update, paths?,
    Statement.items_takeWhile_assignments hne, List.flatMap_map, Assignment.mergePaths_ofChanges]

theorem pathWritten_text (place : String × JsonPath × Value) :
    PathWritten place (StorageName.column place.1, JsonPath.text place.2.1) := by
  refine ⟨rfl, ?_, ?_⟩
  · rw [JsonPath.ofStrictText?_text]
    simp
  · rw [JsonPath.ofStrictText?_text]
    simp

/-- The member that is written for a name is well-formed if and only if the name has no control
character.  The text of an update hands over one path for each place in an object, in order;
with unique names the place is where the changes have the value that is set.  The database
takes a path for that of its place if and only if no name on it has a control character, and
refuses it otherwise. -/
theorem wellFormed_paths_iff (settings : Settings) (r : Resource) (revision : Revision)
    (filter : Condition) :
    (∀ name, JsonPath.WellFormed name (JsonPath.member name) ↔
      JsonPath.isFreeOfControls name = true) ∧
    ∀ compiled, compile settings r (.update revision filter) = .ok compiled →
      ∃ changes paths, revision.changes r.attributes = .ok changes ∧
        pathsOf? compiled.sql = some paths ∧
        List.Forall₂ PathWritten (changes.mergedPlaces r.attributes) paths ∧
        (Value.NamesUnique (.object changes) →
          ∀ place ∈ changes.mergedPlaces r.attributes,
            changes.at? (place.1 :: place.2.1) = some place.2.2) := by
  refine ⟨JsonPath.wellFormed_member_iff, fun compiled h => ?_⟩
  obtain ⟨changes, hchanges, hpaths⟩ := exists_pathsOf?_update h
  refine ⟨changes, _, hchanges, hpaths, ?_, ?_⟩
  · rw [List.forall₂_map_right_iff, List.forall₂_same]
    intro place _
    exact pathWritten_text place
  · intro hunique place hplace
    exact Attributes.at?_of_mem_mergedPlaces hunique hplace

/-- A document with a member whose name has a blank in it. -/
def spacedNames : Attributes :=
  ⟨[("meta", .object ⟨[("first part", .object ⟨[("kept", .null)]⟩)]⟩)]⟩

/-- Changes under names that need quotes in a path. -/
def quotedNames : Attributes :=
  ⟨[("meta", .object ⟨[("first part", .object ⟨[("say \"a\\b\"", .int 1)]⟩), ("", .bool true),
      ("_7", .text "x"), ("größe", .null)]⟩)]⟩

theorem wellFormed_paths_iff_quotedNames :
    let r : Resource := { typeName := "test", id := some "x", attributes := some spacedNames }
    let filter := Condition.compare "id" .equals (.text "x") false
    ∃ compiled paths, compile {} r (.update (.given quotedNames) filter) = .ok compiled ∧
      pathsOf? compiled.sql = some paths ∧
      List.Forall₂ PathWritten (quotedNames.mergedPlaces (some spacedNames)) paths ∧
      ∀ place ∈ quotedNames.mergedPlaces (some spacedNames),
        quotedNames.at? (place.1 :: place.2.1) = some place.2.2 := by
  intro r filter
  obtain ⟨compiled, hcompiled⟩ : ∃ compiled,
      compile {} r (.update (.given quotedNames) filter) = .ok compiled := ⟨_, rfl⟩
  have hunique : Value.NamesUnique (.object quotedNames) := by
    simp [quotedNames, Value.namesUnique_object_iff, Bag.Unique, Bag.names,
      Value.namesUnique_atom]
  obtain ⟨changes, paths, hchanges, hpaths, hwritten, hplaces⟩ :=
    (wellFormed_paths_iff {} r (.given quotedNames) filter).2 compiled hcompiled
  cases hchanges
  exact ⟨compiled, paths, hcompiled, hpaths, hwritten, hplaces hunique⟩

/-- A document without members. -/
def hollowDocument : Attributes := ⟨[("meta", .object ⟨[]⟩)]⟩

/-- A change under a name of two lines. -/
def brokenName : Attributes := ⟨[("meta", .object ⟨[("a\nb", .int 1)]⟩)]⟩

/-- The text of the update by that change. -/
def brokenPath : String :=
  "UPDATE `tests` SET `meta` = JSON_SET(`meta`, " ++
    "\x27$.\\\"a\\nb\\\"\x27, 1) WHERE `id` = \x27x\x27;"

/-- The line break stands in the path by itself, and the database refuses it. -/
theorem not_wellFormed_brokenName :
    let r : Resource := { typeName := "test", id := some "x", attributes := some hollowDocument }
    let filter := Condition.compare "id" .equals (.text "x") false
    ¬ JsonPath.WellFormed "a\nb" (JsonPath.member "a\nb") ∧
      ∃ compiled, compile {} r (.update (.given brokenName) filter) = .ok compiled ∧
        compiled.sql = brokenPath ∧
        pathsOf? compiled.sql = some [("meta", "$.\"a\nb\"")] ∧
        JsonPath.ofStrictText? "$.\"a\nb\"" = none := by
  intro r filter
  have hmember : ¬ JsonPath.WellFormed "a\nb" (JsonPath.member "a\nb") := by
    rw [JsonPath.wellFormed_member_iff]
    decide
  obtain ⟨compiled, hcompiled⟩ : ∃ compiled,
      compile {} r (.update (.given brokenName) filter) = .ok compiled := ⟨_, rfl⟩
  have hsql : (compile {} r (.update (.given brokenName) filter)).toOption.map (·.sql) =
      some brokenPath := by
    decide +kernel
  rw [hcompiled] at hsql
  have htext : compiled.sql = brokenPath := Option.some.inj hsql
  have hpaths : pathsOf? compiled.sql = some [("meta", "$.\"a\nb\"")] := by
    rw [htext]
    decide +kernel
  exact ⟨hmember, compiled, hcompiled, htext, hpaths, by decide +kernel⟩

end ResourceSql
