import ResourceSql.Proofs.English.EndingsOfPlurals
import ResourceSql.StorageName

/-!
# Plurals of plurals

A name may be given in the plural.  The plural of a word is the plural of itself if and only if
it lasts: it stands in a word list, in the case in which words of that list are written, or it
is no singular of a list and does not end as a singular in `s` does.
-/

namespace ResourceSql.English

open LetterCase

/-! ## Word lists -/

theorem small_irregularPlural {entry : String × String} (h : entry ∈ irregularPlurals) :
    Small entry.2.toList := by
  have hall : irregularPlurals.all (·.2.toList.all Char.isLower) = true := by decide +kernel
  intro c hc
  exact List.all_eq_true.mp (List.all_eq_true.mp hall entry h) c hc

theorem exists_of_any_plural {plain : String}
    (h : irregularPlurals.any (·.2 == plain) = true) : ∃ entry ∈ irregularPlurals, entry.2 = plain := by
  obtain ⟨entry, hentry, hplain⟩ := List.any_eq_true.mp h
  exact ⟨entry, hentry, beq_iff_eq.mp hplain⟩

/-- In every case of its own plural a word is found in the list of plurals. -/
theorem pluralChars_of_mem_casings {entry : String × String} {word : List Char}
    (h : entry ∈ irregularPlurals) (hword : word ∈ casings entry.2.toList) :
    pluralChars word = word ∧ lasts word = true := by
  have hsmall := small_irregularPlural h
  have hplain : String.ofList (lower word) = entry.2 := by
    rw [hsmall.lower_of_mem_casings hword, String.ofList_toList]
  have hlisted : irregularPlurals.any (·.2 == entry.2) = true :=
    List.any_eq_true.mpr ⟨entry, h, beq_self_eq_true entry.2⟩
  unfold pluralChars lasts
  simp only [hplain, hlisted, if_true]
  constructor
  · split_ifs
    · rfl
    · exact inCaseOf_of_mem_casings hsmall hword
  · split_ifs
    · rfl
    · exact List.contains_iff_mem.mpr hword

/-- Outside the word lists the endings decide. -/
theorem pluralChars_eq_self_iff {word : List Char}
    (h : lower word ≠ "you".toList → (pluralByEnding word = word ↔ endsAsSingular word = false)) :
    pluralChars word = word ↔ lasts word = true := by
  unfold pluralChars lasts
  extract_lets plain
  split_ifs with hfixed hplural hsingular
  · exact iff_of_true rfl rfl
  · obtain ⟨entry, hentry, hplain⟩ := exists_of_any_plural hplural
    have hsmall : Small plain.toList := hplain ▸ small_irregularPlural hentry
    rw [List.contains_iff_mem]
    exact ⟨fun hsame => hsame ▸ inCaseOf_mem_casings word hsmall, inCaseOf_of_mem_casings hsmall⟩
  · obtain ⟨entry, hfind⟩ := Option.isSome_iff_exists.mp
      (List.find?_isSome.mpr (List.any_eq_true.mp hsingular))
    have hentry := List.mem_of_find?_eq_some hfind
    rw [hfind]
    refine iff_of_false (fun hsame => ?_) nofun
    -- In whatever case, the plural would be the singular.
    have hsmall := small_irregularPlural hentry
    have hcasing := inCaseOf_mem_casings word hsmall
    change inCaseOf word entry.2.toList = word at hsame
    rw [hsame] at hcasing
    have hplain : plain = entry.2 := by
      rw [← String.ofList_toList (s := entry.2), ← hsmall.lower_of_mem_casings hcasing]
    exact hplural (List.any_eq_true.mpr ⟨entry, hentry, beq_iff_eq.mpr hplain.symm⟩)
  · have hfind : irregularPlurals.find? (·.1 == plain) = none :=
      List.find?_eq_none.mpr fun entry hentry hplain =>
        hsingular (List.any_eq_true.mpr ⟨entry, hentry, hplain⟩)
    have hyou : lower word ≠ "you".toList := by
      intro hyou
      have hplain : plain = "you" := by
        rw [← String.ofList_toList (s := "you"), ← hyou]
      refine hfixed (.inr ?_)
      rw [hplain]
      decide +kernel
    rw [hfind]
    change pluralByEnding word = word ↔ _
    rw [h hyou, Bool.not_eq_true']

/-! ## The plural of a plural -/

theorem pluralChars_pluralChars_eq_iff (word : List Char) :
    pluralChars (pluralChars word) = pluralChars word ↔ lasts (pluralChars word) = true := by
  generalize hresult : pluralChars word = result
  have hlisted : ∀ entry ∈ irregularPlurals, inCaseOf word entry.2.toList = result →
      (pluralChars result = result ↔ lasts result = true) := by
    rintro entry hentry rfl
    obtain ⟨hsame, hlasts⟩ := pluralChars_of_mem_casings hentry
      (inCaseOf_mem_casings word (small_irregularPlural hentry))
    exact iff_of_true hsame hlasts
  have h := hresult
  unfold pluralChars at h
  extract_lets plain at h
  split_ifs at h with hfixed hplural
  · subst h
    exact iff_of_true hresult (if_pos hfixed)
  · obtain ⟨entry, hentry, hplain⟩ := exists_of_any_plural hplural
    exact hlisted entry hentry (hplain ▸ h)
  · cases hfind : irregularPlurals.find? (·.1 == plain) with
    | some entry =>
        rw [hfind] at h
        exact hlisted entry (List.mem_of_find?_eq_some hfind) h
    | none =>
        rw [hfind] at h
        exact pluralChars_eq_self_iff (pluralByEnding_eq_self_iff h)

/-- A plural is its own plural if and only if it lasts, and a plural that lasts names the same
table as the word. -/
theorem plural_plural_eq_iff (word : String) :
    (plural (plural word) = plural word ↔ lasts (plural word).toList = true) ∧
      (lasts (plural word).toList = true →
        StorageName.table (plural word) = StorageName.table word) := by
  have hiff : plural (plural word) = plural word ↔ lasts (plural word).toList = true := by
    unfold plural
    rw [String.toList_ofList, String.ofList_inj]
    exact pluralChars_pluralChars_eq_iff word.toList
  refine ⟨hiff, fun hlasts => ?_⟩
  exact congrArg SnakeCase.ofName (hiff.mpr hlasts)

theorem plural_plural_eq_iff_salesPerson :
    plural (plural "salesPerson") = plural "salesPerson" ∧
      StorageName.table "salesPeople" = StorageName.table "salesPerson" := by
  have hplural : plural "salesPerson" = "salesPeople" := by decide +kernel
  have hlasts : lasts (plural "salesPerson").toList = true := by
    rw [hplural]
    decide +kernel
  obtain ⟨hiff, htable⟩ := plural_plural_eq_iff "salesPerson"
  have hsame := htable hlasts
  rw [hplural] at hsame
  exact ⟨hiff.mpr hlasts, hsame⟩

/-- The plural of "taxi" ends as the singular "axis" does, and gets another plural and table. -/
theorem plural_plural_ne_taxi :
    plural "taxi" = "taxis" ∧ plural (plural "taxi") ≠ plural "taxi" ∧
      StorageName.table "taxi" = "taxis" ∧ StorageName.table (plural "taxi") = "taxes" := by
  decide +kernel

end ResourceSql.English
