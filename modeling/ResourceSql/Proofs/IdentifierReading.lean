import Mathlib.Tactic.Common
import ResourceSql.Sql.Literal
import ResourceSql.Sql.QualifiedName

/-!
# Identifiers read back

A quoted name is read back as its parts between the dots, whatever follows it that starts
with neither a backtick nor a dot.  A backtick of the name stands twice, so the one that
closes a part is never taken for one of the name, nor the other way round.
-/

namespace ResourceSql.Sql

/-! ## Names and their parts -/

/-- The parts of a name between its dots; a part may be empty. -/
def nameParts (name : String) : List String := (name.toList.splitOn '.').map String.ofList

theorem dottedName_nameParts (name : String) : dottedName (nameParts name) = name := by
  have hparts : (nameParts name).map String.toList = name.toList.splitOn '.' := by
    simp [nameParts, Function.comp_def]
  rw [dottedName, hparts, List.intercalate_splitOn, String.ofList_toList]

/-! ## One identifier -/

variable {rest : List Char}

theorem parts?_backtick (part : List Char) (hbacktick : rest.head? ≠ some '\x60')
    (hdot : rest.head? ≠ some '.') :
    parts? part (backtick :: rest) = some ([String.ofList part], rest) := by
  apply parts?.eq_3
  · rintro more rfl
    exact hbacktick rfl
  · rintro more rfl
    exact hdot rfl

theorem parts?_cons_of_ne (part : List Char) {c : Char} (hc : c ≠ backtick) (rest : List Char) :
    parts? part (c :: rest) = parts? (part ++ [c]) rest := by
  apply parts?.eq_4
  · intro _ h
    exact (hc h).elim
  · intro _ h
    exact (hc h).elim
  · exact hc

theorem identifierChar_of_ne {c : Char} (hbacktick : c ≠ backtick) (hdot : c ≠ '.') :
    identifierChar c = [c] := by
  rw [identifierChar, if_neg hbacktick, if_neg hdot]

/-- Within a part, the rest of a name is read as the parts that it makes, the first of them
continuing the one that is open. -/
theorem parts?_flatMap (part cs : List Char) (hbacktick : rest.head? ≠ some '\x60')
    (hdot : rest.head? ≠ some '.') :
    parts? part (cs.flatMap identifierChar ++ backtick :: rest) =
      some (((cs.splitOn '.').modifyHead (part ++ ·)).map String.ofList, rest) := by
  induction cs generalizing part with
  | nil => simpa using parts?_backtick part hbacktick hdot
  | cons c cs ih =>
      obtain ⟨first, others, hsplit⟩ := List.exists_cons_of_ne_nil (List.splitOn_ne_nil '.' cs)
      rw [hsplit] at ih
      rw [List.flatMap_cons, List.append_assoc, List.splitOn_eq_splitOnP,
        List.splitOnP_cons_eq_if_modifyHead, ← List.splitOn_eq_splitOnP, hsplit]
      by_cases hquote : c = backtick
      · subst hquote
        calc parts? part (identifierChar backtick ++ (cs.flatMap identifierChar ++ backtick :: rest))
          _ = parts? (part ++ [backtick]) (cs.flatMap identifierChar ++ backtick :: rest) :=
            parts?.eq_1 part _
          _ = _ := by
            rw [ih, if_neg (by decide)]
            simp
      by_cases hsep : c = '.'
      · subst hsep
        calc parts? part (identifierChar '.' ++ (cs.flatMap identifierChar ++ backtick :: rest))
          _ = (parts? [] (cs.flatMap identifierChar ++ backtick :: rest)).map
              fun read => (String.ofList part :: read.1, read.2) := parts?.eq_2 part _
          _ = _ := by simp [ih]
      · rw [identifierChar_of_ne hquote hsep, List.singleton_append,
          parts?_cons_of_ne part hquote, ih]
        simp [hsep]

theorem qualified?_append (name : String) (hbacktick : rest.head? ≠ some '\x60')
    (hdot : rest.head? ≠ some '.') :
    qualified? ((identifier name).toList ++ rest) = some (nameParts name, rest) := by
  have hread := parts?_flatMap [] name.toList hbacktick hdot
  have hparts : (name.toList.splitOn '.').modifyHead ([] ++ ·) = name.toList.splitOn '.' := by
    cases name.toList.splitOn '.' <;> rfl
  rw [hparts] at hread
  rw [identifier, String.toList_ofList, List.append_assoc]
  exact hread

theorem qualified?_toList (name : String) :
    qualified? (identifier name).toList = some (nameParts name, []) := by
  have hread : qualified? ((identifier name).toList ++ []) = some (nameParts name, []) :=
    qualified?_append name (by simp) (by simp)
  rwa [List.append_nil] at hread

theorem identifier_injective : Function.Injective identifier := by
  intro name name' h
  have hread := qualified?_toList name
  rw [h, qualified?_toList, Option.some.injEq, Prod.mk.injEq] at hread
  have hparts : nameParts name = nameParts name' := hread.1.symm
  rw [← dottedName_nameParts name, ← dottedName_nameParts name', hparts]

/-! ## Lists of identifiers -/

/-- A list of identifiers is read to its end as the names that are listed. -/
theorem listedNames?_identifiers {names : List String} (hne : names ≠ []) :
    listedNames? (identifiers names).toList = some names := by
  induction names with
  | nil => exact absurd rfl hne
  | cons name names ih =>
      cases names with
      | nil =>
          have hlist : identifiers [name] = identifier name := by simp [identifiers]
          rw [hlist, listedNames?_of_end (qualified?_toList name), dottedName_nameParts]
      | cons second names =>
          have hlist : (identifiers (name :: second :: names)).toList =
              (identifier name).toList ++ ',' :: ' ' :: (identifiers (second :: names)).toList := by
            simp [identifiers, String.intercalate_cons_cons]
          -- The comma after a name is neither a backtick nor a dot.
          have hread (rest : List Char) :
              qualified? ((identifier name).toList ++ ',' :: ' ' :: rest) =
                some (nameParts name, ',' :: ' ' :: rest) :=
            qualified?_append name (by simp) (by simp)
          rw [hlist, listedNames?_of_comma (hread _), dottedName_nameParts, ih (by simp)]
          rfl

/-- An identifier is scanned to its closing backtick, as the parts of its name between the
dots, in front of everything that starts with neither a backtick nor a dot.  Names with one
identifier are the same, and a list of identifiers is read as the names that are listed. -/
theorem qualified?_identifier :
    (∀ (name : String) (rest : List Char),
      rest.head? ≠ some '\x60' → rest.head? ≠ some '.' →
        qualified? ((identifier name).toList ++ rest) =
          some ((name.toList.splitOn '.').map String.ofList, rest)) ∧
    Function.Injective identifier ∧
    ∀ names : List String, names ≠ [] → listedNames? (identifiers names).toList = some names := by
  refine ⟨?_, identifier_injective, ?_⟩
  · intro name rest hbacktick hdot
    exact qualified?_append name hbacktick hdot
  · intro names hne
    exact listedNames?_identifiers hne

/-- Backticks beside dots, empty parts, and a name that looks like a list. -/
theorem qualified?_identifier_hardNames :
    qualified? ((identifier ".\x60..\x60").toList ++ ", \x60.".toList) =
        some (["", "\x60", "", "\x60"], ", \x60.".toList) ∧
      identifier "\x60." ≠ identifier ".\x60" ∧
      listedNames? (identifiers ["\x60.", ".\x60", "..", "", "a\x60, \x60b"]).toList =
        some ["\x60.", ".\x60", "..", "", "a\x60, \x60b"] := by
  obtain ⟨hread, hinjective, hlisted⟩ := qualified?_identifier
  refine ⟨hread _ _ (by decide) (by decide), ?_, hlisted _ (by decide)⟩
  intro h
  exact absurd (hinjective h) (by decide)

end ResourceSql.Sql
