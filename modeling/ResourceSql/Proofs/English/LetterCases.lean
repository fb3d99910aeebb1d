import Mathlib.Data.List.Basic
import ResourceSql.English.Plural

/-!
# Words in letter cases

The letters of the ending rules are small letters of ASCII, and a few characters fold onto
them.  What the case maps make of such a letter folds onto the same one, so a word ends as it
did in whatever case it is written, and a second change to the case of the result changes
nothing.
-/

namespace ResourceSql.English

open LetterCase

/-! ## Letters -/

/-- The characters that fold onto a small letter of ASCII. -/
def letters : List Char :=
  "abcdefghijklmnopqrstuvwxyzABCDEFGHIJKLMNOPQRSTUVWXYZſ\u212a".toList

def Lettered (text : List Char) : Prop := ∀ c ∈ text, c ∈ letters

/-- A text of small letters of ASCII. -/
def Small (text : List Char) : Prop := ∀ c ∈ text, c.isLower = true

theorem isAscii_of_isLower {c : Char} (h : c.isLower = true) : Unicode.isAscii c = true := by
  have hle : c.val ≤ 'z'.val := of_decide_eq_true (Bool.and_eq_true_iff.mp h).2
  exact decide_eq_true (Nat.lt_of_le_of_lt hle (by decide))

theorem mem_letters {c : Char} (h : (fold c).isLower = true) : c ∈ letters := by
  unfold fold at h
  split_ifs at h with hascii hs hk he
  · have hall : decide (c.toLower.isLower = true → c ∈ letters) = true :=
      Unicode.of_isAscii (p := fun c => decide (c.toLower.isLower = true → c ∈ letters))
        (by decide +kernel) hascii
    exact of_decide_eq_true hall h
  · subst hs
    decide +kernel
  · subst hk
    decide +kernel
  · exact absurd h (by decide)
  · exact absurd (isAscii_of_isLower h) hascii

/-- Letters have one form of either case, which folds onto the same small letter, and the
upper-case form is its own. -/
theorem letter_forms {c : Char} (h : c ∈ letters) :
    c ≠ 'Σ' ∧ (lowerChar c).map fold = [fold c] ∧ (upperChar c).map fold = [fold c] ∧
      (upperChar c).flatMap upperChar = upperChar c := by
  have hall : letters.all (fun c => c ≠ 'Σ' ∧ (lowerChar c).map fold = [fold c] ∧
      (upperChar c).map fold = [fold c] ∧ (upperChar c).flatMap upperChar = upperChar c) = true := by
    decide +kernel
  exact of_decide_eq_true (List.all_eq_true.mp hall c h)

theorem isWordCharacter_of_mem_letters {c : Char} (h : c ∈ letters) :
    Unicode.isWordCharacter c = true := by
  have hall : letters.all Unicode.isWordCharacter = true := by decide +kernel
  exact List.all_eq_true.mp hall c h

/-- A small letter is its own lower-case form, and that of its capital. -/
theorem small_forms {c : Char} (h : c.isLower = true) :
    fold c = c ∧ lowerChar c = [c] ∧ upperChar c = [c.toUpper] ∧ lowerChar c.toUpper = [c] ∧
      Unicode.isUppercase c.toUpper = true ∧ c.toUpper ≠ 'Σ' := by
  have hall : decide (c.isLower = true → fold c = c ∧ lowerChar c = [c] ∧
      upperChar c = [c.toUpper] ∧ lowerChar c.toUpper = [c] ∧
      Unicode.isUppercase c.toUpper = true ∧ c.toUpper ≠ 'Σ') = true :=
    Unicode.of_isAscii (p := fun c => decide (c.isLower = true → fold c = c ∧
      lowerChar c = [c] ∧ upperChar c = [c.toUpper] ∧ lowerChar c.toUpper = [c] ∧
      Unicode.isUppercase c.toUpper = true ∧ c.toUpper ≠ 'Σ'))
      (by decide +kernel) (isAscii_of_isLower h)
  exact of_decide_eq_true hall h

theorem Small.lettered {text : List Char} (h : Small text) : Lettered text := by
  intro c hc
  apply mem_letters
  rw [(small_forms (h c hc)).1]
  exact h c hc

theorem Small.map_fold {text : List Char} (h : Small text) : text.map fold = text :=
  (List.map_congr_left fun c hc => (small_forms (h c hc)).1).trans text.map_id

/-! ## Texts in lower and upper case -/

/-- Only a sigma asks for its neighbours. -/
theorem lowerAfter_eq {text : List Char} (before : List Char) (h : ∀ c ∈ text, c ≠ 'Σ') :
    lowerAfter before text = text.flatMap lowerChar := by
  induction text generalizing before with
  | nil => rfl
  | cons c text ih =>
      rw [lowerAfter, List.flatMap_cons, if_neg (h c (by simp)),
        ih _ fun d hd => h d (by simp [hd])]

theorem exists_lowerAfter_append (before text : List Char) {more : List Char}
    (h : ∀ c ∈ more, c ≠ 'Σ') :
    ∃ front, lowerAfter before (text ++ more) = front ++ more.flatMap lowerChar := by
  induction text generalizing before with
  | nil => exact ⟨[], lowerAfter_eq before h⟩
  | cons c text ih =>
      obtain ⟨front, hfront⟩ := ih (c :: before)
      rw [List.cons_append, lowerAfter, hfront, ← List.append_assoc]
      exact ⟨_, rfl⟩

theorem map_fold_flatMap {text : List Char} {form : Char → List Char}
    (h : ∀ c ∈ text, (form c).map fold = [fold c]) :
    (text.flatMap form).map fold = text.map fold := by
  induction text with
  | nil => rfl
  | cons c text ih =>
      rw [List.flatMap_cons, List.map_append, h c (by simp), ih fun d hd => h d (by simp [hd])]
      rfl

namespace Lettered

variable {text : List Char}

theorem append {more : List Char} (h : Lettered text) (hmore : Lettered more) :
    Lettered (text ++ more) := by
  intro c hc
  rcases List.mem_append.mp hc with hc | hc
  · exact h c hc
  · exact hmore c hc

theorem lower_eq (h : Lettered text) : lower text = text.flatMap lowerChar :=
  lowerAfter_eq [] fun c hc => (letter_forms (h c hc)).1

theorem map_fold_lower (h : Lettered text) : (text.flatMap lowerChar).map fold = text.map fold :=
  map_fold_flatMap fun c hc => (letter_forms (h c hc)).2.1

theorem map_fold_upper (h : Lettered text) : (upper text).map fold = text.map fold :=
  map_fold_flatMap fun c hc => (letter_forms (h c hc)).2.2.1

theorem length_upper (h : Lettered text) : (upper text).length = text.length := by
  simpa using congrArg List.length h.map_fold_upper

theorem upper_upper (h : Lettered text) : upper (upper text) = upper text := by
  unfold upper
  rw [List.flatMap_assoc]
  exact List.flatMap_congr fun c hc => (letter_forms (h c hc)).2.2.2

theorem map_fold_capitalized (h : Lettered text) :
    (capitalized text).map fold = text.map fold := by
  cases text with
  | nil => rfl
  | cons c text =>
      have hrest : Lettered text := fun d hd => h d (by simp [hd])
      rw [capitalized, List.map_append, hrest.map_fold_lower, (letter_forms (h c (by simp))).2.2.1]
      rfl

end Lettered

namespace Small

variable {text : List Char}

theorem flatMap_lowerChar (h : Small text) : text.flatMap lowerChar = text := by
  induction text with
  | nil => rfl
  | cons c text ih =>
      rw [List.flatMap_cons, (small_forms (h c (by simp))).2.1, ih fun d hd => h d (by simp [hd])]
      rfl

theorem lower_eq (h : Small text) : lower text = text :=
  h.lettered.lower_eq.trans h.flatMap_lowerChar

theorem upper_eq (h : Small text) : upper text = text.map Char.toUpper := by
  unfold upper
  rw [List.map_eq_flatMap]
  exact List.flatMap_congr fun c hc => (small_forms (h c hc)).2.2.1

/-- The capitals of small letters are no sigma, and go back to the letters. -/
theorem flatMap_lowerChar_upper (h : Small text) : (upper text).flatMap lowerChar = text := by
  rw [h.upper_eq, List.flatMap_map, ← List.flatMap_singleton' text, List.flatMap_assoc]
  exact List.flatMap_congr fun c hc => by
    simpa using (small_forms (h c hc)).2.2.2.1

theorem ne_sigma_of_mem_upper (h : Small text) : ∀ c ∈ upper text, c ≠ 'Σ' := by
  rw [h.upper_eq]
  intro d hd
  obtain ⟨c, hc, rfl⟩ := List.mem_map.mp hd
  exact (small_forms (h c hc)).2.2.2.2.2

theorem capitalized_cons {c : Char} (h : Small (c :: text)) :
    capitalized (c :: text) = c.toUpper :: text := by
  have hrest : Small text := fun d hd => h d (by simp [hd])
  rw [capitalized, (small_forms (h c (by simp))).2.2.1, hrest.flatMap_lowerChar]
  rfl

/-- In whatever case a small text is written, its lower-case form is the text. -/
theorem lower_of_mem_casings (h : Small text) {casing : List Char}
    (hcasing : casing ∈ casings text) : lower casing = text := by
  simp only [casings, List.mem_cons, List.not_mem_nil, or_false] at hcasing
  rcases hcasing with rfl | rfl | rfl
  · exact h.lower_eq
  · exact (lowerAfter_eq [] h.ne_sigma_of_mem_upper).trans h.flatMap_lowerChar_upper
  · cases text with
    | nil => rfl
    | cons c text =>
        have hrest : Small text := fun d hd => h d (by simp [hd])
        obtain ⟨-, -, -, hlower, -, hsigma⟩ := small_forms (h c (by simp))
        rw [h.capitalized_cons, lower, lowerAfter, if_neg hsigma, hlower,
          lowerAfter_eq _ fun d hd => (letter_forms (hrest.lettered d hd)).1,
          hrest.flatMap_lowerChar]
        rfl

theorem map_fold_of_mem_casings (h : Small text) {casing : List Char}
    (hcasing : casing ∈ casings text) : casing.map fold = text := by
  simp only [casings, List.mem_cons, List.not_mem_nil, or_false] at hcasing
  rcases hcasing with rfl | rfl | rfl
  · exact h.map_fold
  · exact h.lettered.map_fold_upper.trans h.map_fold
  · exact h.lettered.map_fold_capitalized.trans h.map_fold

end Small

/-! ## The case of a model -/

/-- A text in the case of a model is the text itself, or the text in one of three cases. -/
theorem inCaseOf_mem (model text : List Char) :
    inCaseOf model text ∈ [text, lower text, upper text, capitalized text] := by
  unfold inCaseOf
  split_ifs
  · simp
  · simp
  · simp
  · cases text <;> simp [capitalized]
  · simp

/-- Letters are the same letters in every case. -/
theorem map_fold_inCaseOf {text : List Char} (model : List Char) (h : Lettered text) :
    (inCaseOf model text).map fold = text.map fold := by
  have hmem := inCaseOf_mem model text
  simp only [List.mem_cons, List.not_mem_nil, or_false] at hmem
  rcases hmem with hcase | hcase | hcase | hcase <;> rw [hcase]
  · rw [h.lower_eq, h.map_fold_lower]
  · exact h.map_fold_upper
  · exact h.map_fold_capitalized

/-- Small letters at the end of a text are there in every case. -/
theorem exists_inCaseOf_append (model text : List Char) {added : List Char} (h : Small added) :
    ∃ front, ∃ casing ∈ casings added, inCaseOf model (text ++ added) = front ++ casing := by
  have hmem := inCaseOf_mem model (text ++ added)
  simp only [List.mem_cons, List.not_mem_nil, or_false] at hmem
  rcases hmem with hcase | hcase | hcase | hcase
  · exact ⟨text, added, by simp [casings], hcase⟩
  · obtain ⟨front, hfront⟩ := exists_lowerAfter_append [] text
      fun c hc => (letter_forms (h.lettered c hc)).1
    rw [h.flatMap_lowerChar] at hfront
    exact ⟨front, added, by simp [casings], hcase.trans hfront⟩
  · exact ⟨upper text, upper added, by simp [casings], hcase.trans List.flatMap_append⟩
  · cases text with
    | nil => exact ⟨[], capitalized added, by simp [casings], hcase⟩
    | cons c text =>
        refine ⟨upperChar c ++ text.flatMap lowerChar, added, by simp [casings], ?_⟩
        rw [hcase, List.cons_append, capitalized, List.flatMap_append, h.flatMap_lowerChar,
          List.append_assoc]

theorem inCaseOf_self (text : List Char) : inCaseOf text text = text := if_pos rfl

/-- Small letters after capitals take on the case of capitals after them. -/
theorem inCaseOf_upper {kept added : List Char} (hkept : Lettered kept) (hadded : Small added) :
    inCaseOf (upper (kept ++ added)) (upper kept ++ added) = upper (kept ++ added) := by
  have happend : upper (kept ++ added) = upper kept ++ upper added := List.flatMap_append
  have hupper : upper (upper kept ++ added) = upper (kept ++ added) := by
    rw [happend]
    exact List.flatMap_append.trans (congrArg (· ++ upper added) hkept.upper_upper)
  unfold inCaseOf
  split_ifs with hsame hlower hcapitals
  · exact hsame.symm
  · -- Small letters throughout would be those of the text itself.
    obtain ⟨front, hfront⟩ := exists_lowerAfter_append [] (upper kept) hadded.ne_sigma_of_mem_upper
    rw [hadded.flatMap_lowerChar_upper, ← happend] at hfront
    have hends : upper kept ++ upper added = front ++ added := by
      rw [← happend, ← hfront]
      exact hlower
    have hsmall : upper added = added :=
      (List.append_inj' hends (by simp [hadded.upper_eq])).2
    exact absurd (by rw [happend, hsmall]) hsame
  · exact hupper
  · exact absurd ((hkept.append hadded.lettered).upper_upper).symm hcapitals
  · exact absurd ((hkept.append hadded.lettered).upper_upper).symm hcapitals

/-- A capitalized text gives its case to the text. -/
theorem inCaseOf_capitalized {text : List Char} (h : Small text) :
    inCaseOf (capitalized text) text = capitalized text := by
  cases text with
  | nil => rfl
  | cons c text =>
      have hrest : Small text := fun d hd => h d (by simp [hd])
      obtain ⟨-, -, hform, -, hcapital, -⟩ := small_forms (h c (by simp))
      have hlower : lower (capitalized (c :: text)) = c :: text :=
        h.lower_of_mem_casings (by simp [casings])
      have hupper : upper (capitalized (c :: text)) = upper (c :: text) := by
        have hagain := (letter_forms (h.lettered c (by simp))).2.2.2
        rw [h.capitalized_cons, upper, upper, List.flatMap_cons, List.flatMap_cons]
        rw [hform, List.flatMap_singleton] at hagain
        rw [hagain, hform]
      unfold inCaseOf
      split_ifs with hsame hsmall hcapitals hleading
      · exact hsame.symm
      · rw [hlower] at hsmall
        exact absurd hsmall hsame
      · exact hupper.symm.trans hcapitals.symm
      · rfl
      · refine absurd ⟨?_, ?_⟩ hleading
        · simpa [h.capitalized_cons] using hcapital
        · simpa [h.capitalized_cons] using hrest.lower_eq.symm

theorem inCaseOf_of_mem_casings {text casing : List Char} (h : Small text)
    (hcasing : casing ∈ casings text) : inCaseOf casing text = casing := by
  simp only [casings, List.mem_cons, List.not_mem_nil, or_false] at hcasing
  rcases hcasing with rfl | rfl | rfl
  · exact inCaseOf_self _
  · have hnothing : Lettered [] := nofun
    exact inCaseOf_upper hnothing h
  · exact inCaseOf_capitalized h

theorem inCaseOf_mem_casings (model : List Char) {text : List Char} (h : Small text) :
    inCaseOf model text ∈ casings text := by
  have hmem := inCaseOf_mem model text
  rw [h.lower_eq] at hmem
  simpa [casings] using hmem

/-- What a text has become in the case of a model, its kept part gives to the small letters
after it again. -/
theorem inCaseOf_again {kept added front tail model : List Char} (hkept : Lettered kept)
    (hadded : Small added) (h : inCaseOf model (kept ++ added) = front ++ tail)
    (hlength : front.length = kept.length) :
    inCaseOf (front ++ tail) (front ++ added) = front ++ tail := by
  have hletters := hkept.append hadded.lettered
  -- Only a change of the added letters themselves has to be found again.
  have hsame : ∀ text : List Char, front ++ tail = text ++ added → text.length = kept.length →
      inCaseOf (front ++ tail) (front ++ added) = front ++ tail := by
    intro text htext htextLength
    obtain ⟨-, rfl⟩ := List.append_inj htext (hlength.trans htextLength.symm)
    exact inCaseOf_self _
  have hmem := inCaseOf_mem model (kept ++ added)
  simp only [h, List.mem_cons, List.not_mem_nil, or_false] at hmem
  rcases hmem with hcase | hcase | hcase | hcase
  · exact hsame kept hcase rfl
  · rw [hletters.lower_eq, List.flatMap_append, hadded.flatMap_lowerChar] at hcase
    refine hsame _ hcase ?_
    simpa using congrArg List.length hkept.map_fold_lower
  · have hparts : front ++ tail = upper kept ++ upper added := hcase.trans List.flatMap_append
    obtain ⟨rfl, -⟩ := List.append_inj hparts (hlength.trans hkept.length_upper.symm)
    rw [hcase]
    exact inCaseOf_upper hkept hadded
  · cases kept with
    | nil =>
        obtain rfl := List.eq_nil_of_length_eq_zero hlength
        rw [List.nil_append] at hcase ⊢
        rw [hcase]
        exact inCaseOf_capitalized hadded
    | cons c kept =>
        rw [List.cons_append, capitalized, List.flatMap_append, hadded.flatMap_lowerChar,
          ← List.append_assoc] at hcase
        refine hsame _ hcase ?_
        simpa [capitalized] using congrArg List.length hkept.map_fold_capitalized

end ResourceSql.English
