import Mathlib.Tactic.Common
import ResourceSql.Sql.MergeReader

/-!
# Merges as the database reads them

The text of a path denotes the path whatever the names of its members are, so a
merge that is written into a statement is read back as the places that it sets.
-/

namespace ResourceSql

open Sql

namespace JsonPath

/-! ## Paths -/

namespace Mode

theorem read?_cons {mode next : Mode} {c : Char} {done : JsonPath}
    (h : mode.step? c = some (done, next)) (rest : List Char) :
    mode.read? (c :: rest) = (next.read? rest).map (done ++ ·) := by
  cases hread : next.read? rest <;> simp [read?, h, hread]

theorem read?_plain {word : List Char} (hword : ∀ c ∈ word, isPlainChar c = true)
    (name rest : List Char) :
    (plain name).read? (word ++ rest) = (plain (name ++ word)).read? rest := by
  induction word generalizing name with
  | nil => simp
  | cons c word ih =>
      have hc : isPlainChar c = true := hword c (by simp)
      have hdot : c ≠ '.' := by
        rintro rfl
        exact absurd hc (by decide)
      have hstep : (plain name).step? c = some ([], plain (name ++ [c])) := by
        simp [step?, hc, hdot]
      have hrest := ih (fun d hd => hword d (List.mem_cons_of_mem _ hd)) (name ++ [c])
      rw [List.cons_append, read?_cons hstep, hrest]
      simp

theorem read?_quoted (word name rest : List Char) :
    (quoted name).read? (word.flatMap escaped ++ rest) =
      (quoted (name ++ word)).read? rest := by
  induction word generalizing name with
  | nil => simp
  | cons c word ih =>
      have hfirst : ∀ back, (quoted name).read? (escaped c ++ back) =
          (quoted (name ++ [c])).read? back := by
        intro back
        unfold escaped
        split_ifs with hc
        · have hslash : (quoted name).step? '\\' = some ([], escape name) := by simp [step?]
          have hstep : (escape name).step? c = some ([], quoted (name ++ [c])) := rfl
          simp [read?_cons hslash, read?_cons hstep]
        · obtain ⟨hquote, hslash⟩ := not_or.mp hc
          have hstep : (quoted name).step? c = some ([], quoted (name ++ [c])) := by
            simp [step?, hquote, hslash]
          simp [read?_cons hstep]
      rw [List.flatMap_cons, List.append_assoc, hfirst, ih]
      simp

/-- After a dot, a member is read as its name. -/
theorem read?_member (name : String) {rest : List Char}
    (hrest : rest = [] ∨ rest.head? = some '.') :
    dot.read? (member name ++ rest) = (ended.read? rest).map (name :: ·) := by
  unfold member
  split_ifs with hplain
  · obtain ⟨hhead, hall⟩ := Bool.and_eq_true_iff.mp hplain
    cases hname : name.toList with
    | nil => simp [hname] at hhead
    | cons c word =>
        have hc : (isPlainChar c && !c.isDigit) = true := by simpa [hname] using hhead
        have hquote : c ≠ '\x22' := by
          rintro rfl
          exact absurd hc (by decide)
        have hword : ∀ d ∈ word, isPlainChar d = true := by
          intro d hd
          rw [hname] at hall
          exact List.all_eq_true.mp hall d (List.mem_cons_of_mem _ hd)
        have hback : String.ofList (c :: word) = name := by rw [← hname, String.ofList_toList]
        have hstep : dot.step? c = some ([], plain [c]) := by simp [step?, hquote, hc]
        rw [List.cons_append, read?_cons hstep, read?_plain hword]
        rcases hrest with rfl | hdot
        · simp [read?, finish?, hback]
        · obtain ⟨rest, rfl⟩ := List.head?_eq_some_iff.mp hdot
          have hend : (plain (c :: word)).step? '.' = some ([name], dot) := by
            simp [step?, hback]
          have hended : ended.step? '.' = some ([], dot) := rfl
          simp [read?_cons hend, read?_cons hended, Option.map_map, Function.comp_def]
  · have hopen : dot.step? '\x22' = some ([], quoted []) := rfl
    have hclose : (quoted name.toList).step? '\x22' = some ([name], ended) := by
      simp [step?]
    rw [quotedMember, List.cons_append, List.cons_append, List.append_assoc, read?_cons hopen,
      read?_quoted, List.nil_append, List.singleton_append, read?_cons hclose]
    simp [Option.map_map, Function.comp_def]

end Mode

theorem Mode.read?_members (path : JsonPath) :
    Mode.ended.read? (path.flatMap fun name => '.' :: member name) = some path := by
  induction path with
  | nil => rfl
  | cons name path ih =>
      have hrest : (path.flatMap fun name => '.' :: member name) = [] ∨
          (path.flatMap fun name => '.' :: member name).head? = some '.' := by
        cases path with
        | nil => exact Or.inl rfl
        | cons other path => exact Or.inr rfl
      have hdot : Mode.ended.step? '.' = some ([], Mode.dot) := rfl
      rw [List.flatMap_cons, List.cons_append, Mode.read?_cons hdot, Mode.read?_member name hrest,
        ih]
      rfl

theorem ofText?_text (path : JsonPath) : ofText? (text path) = some path := by
  unfold ofText? text
  rw [String.toList_ofList]
  exact Mode.read?_members path

end JsonPath

/-! ## Merges -/

namespace Sql

theorem places?_placeTokens (path : JsonPath) (value : Value) (rest : List Token) :
    places? (placeTokens path value ++ rest) =
      (places? rest).map ((path, value.argument) :: ·) := by
  have hpath := JsonPath.ofText?_text path
  cases hrest : places? rest <;> cases value <;>
    simp [placeTokens, Value.argument, Argument.tokens, parenthesized, places?, Value.token,
      Token.isLiteral, hpath, hrest]

/-- The places of a merge are read back as they were written. -/
theorem places?_flatMap (changes : List (JsonPath × Value)) :
    places? ((changes.flatMap fun (path, value) => placeTokens path value) ++ [.symbol ')']) =
      some (changes.map fun (path, value) => (path, value.argument)) := by
  induction changes with
  | nil => rfl
  | cons change changes ih =>
      rw [List.flatMap_cons, List.append_assoc, places?_placeTokens, ih]
      rfl

theorem merge?_tokens (column : String) (changes : List (JsonPath × Value)) :
    merge? (Assignment.merge column changes).tokens =
      some (column, changes.map fun (path, value) => (path, value.argument)) := by
  have hplaces := places?_flatMap changes
  simp [Assignment.tokens, parenthesized, merge?, hplaces]

end Sql

end ResourceSql
