import Mathlib.Tactic.Common
import ResourceSql.StorageName

/-!
# Characters of names in storage

A name in snake case is made of underscores and of lower-case forms of the letters
and digits of the name.  None of these is a dot, so a table or a column is always a
single name.
-/

namespace ResourceSql

/-- No other code point stands for a dot. -/
theorem Unicode.ofNat_ne_dot {code : Nat} (hcode : code ≠ 46) : Char.ofNat code ≠ '.' := by
  intro h
  have hnat : (Char.ofNat code).toNat = 46 := congrArg Char.toNat h
  by_cases hvalid : code.isValidChar
  · rw [Char.ofNat, dif_pos hvalid] at hnat
    exact hcode hnat
  · rw [Char.ofNat, dif_neg hvalid] at hnat
    exact absurd hnat (by decide)

namespace LetterCase

theorem toLower_ne_dot : ∀ n < 128, (Char.ofNat n).isAlphanum = true →
    (Char.ofNat n).toLower ≠ '.' := by
  decide

theorem dot_notMem_mapped {shifts : List (Nat × Nat × Nat × Int)}
    {expansions : List (Nat × List Nat)} (hshifts : ∀ run ∈ shifts, 46 < run.1 + run.2.2.2)
    (hexpansions : ∀ entry ∈ expansions, 46 ∉ entry.2) {c : Char} (hc : c ≠ '.') :
    '.' ∉ mapped shifts expansions c := by
  unfold mapped
  cases hexpansion : expansionOf? expansions c.toNat with
  | some codes =>
      obtain ⟨entry, hfind, rfl⟩ := Option.map_eq_some_iff.mp hexpansion
      have hmem := hexpansions entry (List.mem_of_find?_eq_some hfind)
      simp only [List.mem_map, not_exists, not_and]
      intro code hcode
      apply Unicode.ofNat_ne_dot
      rintro rfl
      exact hmem hcode
  | none =>
      cases hshift : shiftOf? shifts c.toNat with
      | some shift =>
          obtain ⟨⟨first, last, step, shift⟩, hfind, rfl⟩ := Option.map_eq_some_iff.mp hshift
          have hmem := hshifts _ (List.mem_of_find?_eq_some hfind)
          have hrange := List.find?_some hfind
          simp only [Bool.and_eq_true, decide_eq_true_eq] at hrange
          simp only [List.mem_singleton]
          apply Ne.symm
          apply Unicode.ofNat_ne_dot
          have hfirst := hrange.1.1
          simp only at hmem ⊢
          omega
      | none => simpa using hc.symm

theorem dot_notMem_lowerChar {c : Char} (hc : Unicode.isAlphanumeric c = true) :
    '.' ∉ lowerChar c := by
  have hdot : c ≠ '.' := by
    rintro rfl
    exact absurd hc (by decide)
  unfold lowerChar
  split_ifs with hascii
  · have hlt : c.toNat < 128 := by simpa [Unicode.isAscii] using hascii
    have halnum : c.isAlphanum = true := by
      simpa [Unicode.isAlphanumeric, Unicode.isAlphabetic, Unicode.isNumeric, hascii,
        Char.isAlphanum] using hc
    have h := toLower_ne_dot c.toNat hlt
    rw [Char.ofNat_toNat] at h
    simpa using (h halnum).symm
  · exact dot_notMem_mapped (by decide +kernel) (by decide) hdot

end LetterCase

namespace SnakeCase

/-- Cutting a run of characters into words keeps the characters. -/
theorem mem_of_mem_cutWords {run : Run} {front cs word : List Char} {c : Char}
    (hword : word ∈ cutWords run front cs) (hc : c ∈ word) : c ∈ front ∨ c ∈ cs := by
  fun_induction cutWords run front cs with
  | case1 => simp at hword
  | case2 run front d =>
      rw [List.mem_singleton] at hword
      subst hword
      simpa [or_comm] using hc
  | case3 run front d next rest hcut ih =>
      rcases List.mem_cons.mp hword with rfl | hword
      · rcases List.mem_cons.mp (List.mem_reverse.mp hc) with rfl | hc
        · simp
        · exact Or.inl hc
      · rcases ih hword with hc | hc
        · simp at hc
        · exact Or.inr (List.mem_cons_of_mem _ hc)
  | case4 run front d next rest hcut hlast ih =>
      rcases List.mem_cons.mp hword with rfl | hword
      · exact Or.inl (List.mem_reverse.mp hc)
      · rcases ih hword with hc | hc
        · rw [List.mem_singleton] at hc
          simp [hc]
        · exact Or.inr (List.mem_cons_of_mem _ hc)
  | case5 run front d next rest hcut hlast ih =>
      rcases ih hword with hc | hc
      · rcases List.mem_cons.mp hc with rfl | hc
        · simp
        · exact Or.inl hc
      · exact Or.inr (List.mem_cons_of_mem _ hc)

/-- The parts of a list between separators hold no separator, and nothing new. -/
theorem mem_of_mem_splitOnP {p : Char → Bool} {cs part : List Char} {c : Char}
    (hpart : part ∈ cs.splitOnP p) (hc : c ∈ part) : c ∈ cs ∧ p c = false := by
  induction cs generalizing part with
  | nil =>
      rw [List.splitOnP_nil, List.mem_singleton] at hpart
      simp [hpart] at hc
  | cons d cs ih =>
      rw [List.splitOnP_cons_eq_if_modifyHead] at hpart
      obtain ⟨first, rest, hsplit⟩ := List.exists_cons_of_ne_nil (List.splitOnP_ne_nil p cs)
      by_cases hd : p d = true
      · rw [if_pos hd, List.mem_cons] at hpart
        rcases hpart with rfl | hpart
        · simp at hc
        · exact ⟨List.mem_cons_of_mem d (ih hpart hc).1, (ih hpart hc).2⟩
      · rw [if_neg hd, hsplit, List.modifyHead_cons, List.mem_cons] at hpart
        rcases hpart with rfl | hpart
        · rcases List.mem_cons.mp hc with rfl | hc
          · exact ⟨by simp, by simpa using hd⟩
          · have hmem : first ∈ cs.splitOnP p := by simp [hsplit]
            have hfirst := ih hmem hc
            exact ⟨List.mem_cons_of_mem d hfirst.1, hfirst.2⟩
        · have hmem : part ∈ cs.splitOnP p := by simp [hsplit, hpart]
          have hother := ih hmem hc
          exact ⟨List.mem_cons_of_mem d hother.1, hother.2⟩

theorem mem_of_mem_wordsOf {name word : List Char} {c : Char} (hword : word ∈ wordsOf name)
    (hc : c ∈ word) : c ∈ name ∧ Unicode.isAlphanumeric c = true := by
  obtain ⟨part, hpart, hcut⟩ := List.mem_flatMap.mp hword
  rcases mem_of_mem_cutWords hcut hc with hc | hc
  · simp at hc
  · have h := mem_of_mem_splitOnP hpart hc
    exact ⟨h.1, by simpa using h.2⟩

theorem mem_lowerWord {word : List Char} {c : Char} (hc : c ∈ lowerWord word) :
    c = 'ς' ∨ ∃ d ∈ word, c ∈ LetterCase.lowerChar d := by
  fun_induction lowerWord word with
  | case1 => simp at hc
  | case2 => exact Or.inl (List.mem_singleton.mp hc)
  | case3 d hd => exact Or.inr ⟨d, by simp, hc⟩
  | case4 d rest hrest ih =>
      rcases List.mem_append.mp hc with hc | hc
      · exact Or.inr ⟨d, by simp, hc⟩
      · rcases ih hc with rfl | ⟨e, he, hc⟩
        · exact Or.inl rfl
        · exact Or.inr ⟨e, List.mem_cons_of_mem d he, hc⟩

theorem mem_intersperse {α : Type} {sep a : α} {l : List α} (h : a ∈ l.intersperse sep) :
    a = sep ∨ a ∈ l := by
  fun_induction List.intersperse sep l with
  | case1 => exact Or.inr h
  | case2 => exact Or.inr h
  | case3 first second rest ih =>
      simp only [List.mem_cons] at h ⊢
      rcases h with h | h | h
      · exact Or.inr (Or.inl h)
      · exact Or.inl h
      · rcases ih h with h | h
        · exact Or.inl h
        · exact Or.inr (Or.inr (by simpa using h))

/-- A character of a name in snake case is an underscore or comes from a letter or digit
of the name. -/
theorem mem_chars {name : List Char} {c : Char} (hc : c ∈ chars name) :
    c = '_' ∨ c = 'ς' ∨
      ∃ d ∈ name, Unicode.isAlphanumeric d = true ∧ c ∈ LetterCase.lowerChar d := by
  obtain ⟨part, hpart, hc⟩ := List.mem_flatten.mp hc
  rcases mem_intersperse hpart with rfl | hpart
  · exact Or.inl (List.mem_singleton.mp hc)
  · obtain ⟨word, hword, rfl⟩ := List.mem_map.mp hpart
    rcases mem_lowerWord hc with rfl | ⟨d, hd, hc⟩
    · exact Or.inr (Or.inl rfl)
    · obtain ⟨hname, halnum⟩ := mem_of_mem_wordsOf hword hd
      exact Or.inr (Or.inr ⟨d, hname, halnum, hc⟩)

theorem dot_notMem_ofName (name : String) : '.' ∉ (ofName name).toList := by
  rw [ofName, String.toList_ofList]
  intro hdot
  rcases mem_chars hdot with h | h | ⟨d, -, hd, hc⟩
  · exact absurd h (by decide)
  · exact absurd h (by decide)
  · exact LetterCase.dot_notMem_lowerChar hd hc

end SnakeCase

end ResourceSql
