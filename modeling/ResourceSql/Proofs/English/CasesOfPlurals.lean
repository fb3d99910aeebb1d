import ResourceSql.Proofs.English.PluralsOfPlurals

/-!
# Plurals in letter cases

Every character of ASCII has one form of either case, so a word in ASCII is changed to either
case character by character.  An inflection applies to such a word if and only if it applies to
the word in small letters, and divides both at the same places.  The plural is then the same up
to letter case, and of a word in capitals it is written in capitals.
-/

namespace ResourceSql.English

open LetterCase

def Ascii (text : List Char) : Prop := ∀ c ∈ text, Unicode.isAscii c = true

def Capital (text : List Char) : Prop := ∀ c ∈ text, c.isUpper = true

/-! ## Characters -/

/-- Both forms of a character of ASCII have the same small letter. -/
theorem ascii_forms {c : Char} (h : Unicode.isAscii c = true) :
    c ≠ 'Σ' ∧ Unicode.isAscii c.toLower = true ∧ Unicode.isAscii c.toUpper = true ∧
      c.toLower.toLower = c.toLower ∧ c.toUpper.toLower = c.toLower := by
  have hall : decide (c ≠ 'Σ' ∧ Unicode.isAscii c.toLower = true ∧
      Unicode.isAscii c.toUpper = true ∧ c.toLower.toLower = c.toLower ∧
      c.toUpper.toLower = c.toLower) = true :=
    Unicode.of_isAscii (p := fun c => decide (c ≠ 'Σ' ∧ Unicode.isAscii c.toLower = true ∧
      Unicode.isAscii c.toUpper = true ∧ c.toLower.toLower = c.toLower ∧
      c.toUpper.toLower = c.toLower)) (by decide +kernel) h
  exact of_decide_eq_true hall

/-- Neither the endings nor the bounds of words tell a character of ASCII from its small letter. -/
theorem ascii_classes {c : Char} (h : Unicode.isAscii c = true) :
    fold c.toLower = fold c ∧ Unicode.isWordCharacter c.toLower = Unicode.isWordCharacter c := by
  have hall : decide (fold c.toLower = fold c ∧
      Unicode.isWordCharacter c.toLower = Unicode.isWordCharacter c) = true :=
    Unicode.of_isAscii (p := fun c => decide (fold c.toLower = fold c ∧
      Unicode.isWordCharacter c.toLower = Unicode.isWordCharacter c)) (by decide +kernel) h
  exact of_decide_eq_true hall

theorem isAscii_of_isUpper {c : Char} (h : c.isUpper = true) : Unicode.isAscii c = true := by
  have hle : c.val ≤ 'Z'.val := (of_decide_eq_true h).2
  exact decide_eq_true (Nat.lt_of_le_of_lt hle (by decide))

/-- A capital is the upper-case form of itself and of its small letter, from which it differs. -/
theorem capital_forms {c : Char} (h : c.isUpper = true) :
    c.toUpper = c ∧ c.toLower.toUpper = c ∧ c.toLower ≠ c := by
  have hall : decide (c.isUpper = true → c.toUpper = c ∧ c.toLower.toUpper = c ∧
      c.toLower ≠ c) = true :=
    Unicode.of_isAscii (p := fun c => decide (c.isUpper = true → c.toUpper = c ∧
      c.toLower.toUpper = c ∧ c.toLower ≠ c)) (by decide +kernel) (isAscii_of_isUpper h)
  exact of_decide_eq_true hall h

/-! ## Texts -/

theorem Small.ascii {text : List Char} (h : Small text) : Ascii text :=
  fun c hc => isAscii_of_isLower (h c hc)

theorem Capital.ascii {text : List Char} (h : Capital text) : Ascii text :=
  fun c hc => isAscii_of_isUpper (h c hc)

namespace Ascii

variable {text more : List Char}

theorem append (h : Ascii text) (hmore : Ascii more) : Ascii (text ++ more) := by
  intro c hc
  rcases List.mem_append.mp hc with hc | hc
  · exact h c hc
  · exact hmore c hc

theorem lower_eq (h : Ascii text) : lower text = text.map Char.toLower := by
  have hsigma : lower text = text.flatMap lowerChar :=
    lowerAfter_eq [] fun c hc => (ascii_forms (h c hc)).1
  rw [hsigma, List.map_eq_flatMap]
  exact List.flatMap_congr fun c hc => by rw [lowerChar, if_pos (h c hc)]

theorem upper_eq (h : Ascii text) : upper text = text.map Char.toUpper := by
  rw [upper, List.map_eq_flatMap]
  exact List.flatMap_congr fun c hc => by rw [upperChar, if_pos (h c hc)]

theorem lower (h : Ascii text) : Ascii (lower text) := by
  rw [h.lower_eq]
  intro d hd
  obtain ⟨c, hc, rfl⟩ := List.mem_map.mp hd
  exact (ascii_forms (h c hc)).2.1

theorem upper (h : Ascii text) : Ascii (upper text) := by
  rw [h.upper_eq]
  intro d hd
  obtain ⟨c, hc, rfl⟩ := List.mem_map.mp hd
  exact (ascii_forms (h c hc)).2.2.1

theorem lower_append (h : Ascii text) (hmore : Ascii more) :
    LetterCase.lower (text ++ more) = LetterCase.lower text ++ LetterCase.lower more := by
  rw [(h.append hmore).lower_eq, h.lower_eq, hmore.lower_eq, List.map_append]

theorem lower_lower (h : Ascii text) :
    LetterCase.lower (LetterCase.lower text) = LetterCase.lower text := by
  rw [h.lower.lower_eq, h.lower_eq, List.map_map]
  exact List.map_congr_left fun c hc => (ascii_forms (h c hc)).2.2.2.1

theorem lower_upper (h : Ascii text) :
    LetterCase.lower (LetterCase.upper text) = LetterCase.lower text := by
  rw [h.upper.lower_eq, h.upper_eq, h.lower_eq, List.map_map]
  exact List.map_congr_left fun c hc => (ascii_forms (h c hc)).2.2.2.2

theorem capitalized_cons {c : Char} (h : Ascii (c :: text)) :
    capitalized (c :: text) = c.toUpper :: LetterCase.lower text := by
  have hrest : Ascii text := fun d hd => h d (by simp [hd])
  have hlower : LetterCase.lower text = text.flatMap lowerChar :=
    lowerAfter_eq [] fun d hd => (ascii_forms (hrest d hd)).1
  rw [capitalized, upperChar, if_pos (h c (by simp)), hlower]
  rfl

theorem capitalized (h : Ascii text) : Ascii (capitalized text) := by
  cases text with
  | nil => exact h
  | cons c text =>
      have hrest : Ascii text := fun d hd => h d (by simp [hd])
      rw [h.capitalized_cons]
      intro d hd
      rcases List.mem_cons.mp hd with rfl | hd
      · exact (ascii_forms (h c (by simp))).2.2.1
      · exact hrest.lower d hd

theorem lower_capitalized (h : Ascii text) :
    LetterCase.lower (English.capitalized text) = LetterCase.lower text := by
  cases text with
  | nil => rfl
  | cons c text =>
      have hrest : Ascii text := fun d hd => h d (by simp [hd])
      have hfirst : c.toUpper.toLower = c.toLower := (ascii_forms (h c (by simp))).2.2.2.2
      rw [h.capitalized.lower_eq, h.capitalized_cons, List.map_cons, ← hrest.lower.lower_eq,
        hrest.lower_lower, hrest.lower_eq, hfirst, h.lower_eq, List.map_cons]

theorem take (h : Ascii text) (n : Nat) : Ascii (text.take n) :=
  fun c hc => h c (List.mem_of_mem_take hc)

theorem drop (h : Ascii text) (n : Nat) : Ascii (text.drop n) :=
  fun c hc => h c (List.mem_of_mem_drop hc)

theorem length_lower (h : Ascii text) : (LetterCase.lower text).length = text.length := by
  rw [h.lower_eq, List.length_map]

theorem lower_take (h : Ascii text) (n : Nat) :
    LetterCase.lower (text.take n) = (LetterCase.lower text).take n := by
  rw [h.lower_eq, (h.take n).lower_eq, List.map_take]

theorem lower_drop (h : Ascii text) (n : Nat) :
    LetterCase.lower (text.drop n) = (LetterCase.lower text).drop n := by
  rw [h.lower_eq, (h.drop n).lower_eq, List.map_drop]

theorem inCaseOf (h : Ascii text) (model : List Char) : Ascii (inCaseOf model text) := by
  have hmem := inCaseOf_mem model text
  simp only [List.mem_cons, List.not_mem_nil, or_false] at hmem
  rcases hmem with hcase | hcase | hcase | hcase <;> rw [hcase]
  · exact h
  · exact h.lower
  · exact h.upper
  · exact h.capitalized

/-- Whatever case a text takes on, in small letters it is the same. -/
theorem lower_inCaseOf (h : Ascii text) (model : List Char) :
    LetterCase.lower (English.inCaseOf model text) = LetterCase.lower text := by
  have hmem := inCaseOf_mem model text
  simp only [List.mem_cons, List.not_mem_nil, or_false] at hmem
  rcases hmem with hcase | hcase | hcase | hcase <;> rw [hcase]
  · exact h.lower_lower
  · exact h.lower_upper
  · exact h.lower_capitalized

end Ascii

namespace Capital

variable {text : List Char}

theorem upper_eq (h : Capital text) : upper text = text := by
  rw [h.ascii.upper_eq]
  exact (List.map_congr_left fun c hc => (capital_forms (h c hc)).1).trans text.map_id

theorem upper_lower (h : Capital text) : upper (lower text) = text := by
  rw [h.ascii.lower.upper_eq, h.ascii.lower_eq, List.map_map]
  exact (List.map_congr_left fun c hc => (capital_forms (h c hc)).2.1).trans text.map_id

theorem lower_ne (h : Capital text) (hne : text ≠ []) : lower text ≠ text := by
  rw [h.ascii.lower_eq]
  cases text with
  | nil => exact absurd rfl hne
  | cons c text =>
      intro hsame
      exact (capital_forms (h c (by simp))).2.2 (List.cons.inj hsame).1

end Capital

theorem upper_append (text more : List Char) : upper (text ++ more) = upper text ++ upper more :=
  List.flatMap_append

theorem inCaseOf_of_lower {model : List Char} (h : lower model = model) (text : List Char) :
    inCaseOf model text = lower text := by
  unfold inCaseOf
  split_ifs with hsame hlower
  · rw [← hsame, h]
  · rfl
  · exact absurd h.symm hlower
  · exact absurd h.symm hlower
  · rfl

theorem inCaseOf_of_capital {model : List Char} (h : Capital model) (hne : model ≠ [])
    (text : List Char) : inCaseOf model text = upper text := by
  unfold inCaseOf
  split_ifs with hsame hlower hupper
  · rw [← hsame, h.upper_eq]
  · exact absurd hlower.symm (h.lower_ne hne)
  · rfl
  · exact absurd h.upper_eq.symm hupper
  · exact absurd h.upper_eq.symm hupper

/-! ## Divisions -/

def Division.lowered (division : Division) : Division :=
  ⟨lower division.before, lower division.kept, lower division.dropped⟩

def Division.whole (division : Division) : List Char :=
  division.before ++ (division.kept ++ division.dropped)

theorem Start.allows_lower {before : List Char} (h : Ascii before) (start : Start) :
    start.allows (lower before) = start.allows before := by
  rw [h.lower_eq]
  cases start with
  | anywhere => rfl
  | ofWord =>
      rw [Start.allows, Start.allows, List.getLast?_map, Option.any_map]
      -- By reduction the two tests would be compared before it is seen that neither is made.
      cases hlast : before.getLast? with
      | none => rw [Option.any_none, Option.any_none]
      | some c =>
          have hc := (ascii_classes (h c (List.mem_of_getLast? hlast))).2
          rw [Option.any_some, Option.any_some, hc]
  | ofText => cases before <;> rfl

theorem fits_lower {text : List Char} (h : Ascii text) (places : List Place) :
    fits places (lower text) = fits places text := by
  apply fits_congr
  rw [h.lower_eq, List.map_map]
  exact List.map_congr_left fun c hc => (ascii_classes (h c hc)).1

/-- A word in small letters is divided where the word is. -/
theorem Ending.divide?_lower {word : List Char} (h : Ascii word) (ending : Ending)
    (start : Start) :
    ending.divide? start (lower word) = (ending.divide? start word).map Division.lowered := by
  unfold divide?
  dsimp only
  rw [h.length_lower, ← h.lower_take, ← h.lower_drop, ← (h.drop _).lower_take,
    ← (h.drop _).lower_drop, fits_lower ((h.drop _).take _), fits_lower ((h.drop _).drop _),
    Start.allows_lower (h.take _)]
  split_ifs <;> rfl

theorem Ending.eq_whole_of_divide? {ending : Ending} {start : Start} {word : List Char}
    {division : Division} (h : ending.divide? start word = some division) :
    word = division.whole :=
  (Ending.divide?_eq_some_iff.mp h).1

namespace Division

/-- The characters whose case the end of the word takes on. -/
def model (division : Division) : List Char :=
  if (division.kept ++ division.dropped).isEmpty then division.before.getLast?.toList
  else division.kept ++ division.dropped

variable {division : Division} {added : List Char}

theorem rebuilt_eq (division : Division) (added : List Char) :
    division.rebuilt added =
      division.before ++ inCaseOf division.model (division.kept ++ added) := rfl

theorem mem_whole_of_mem_model {c : Char} (h : c ∈ division.model) : c ∈ division.whole := by
  unfold model at h
  split_ifs at h
  · have hlast : division.before.getLast? = some c := by simpa using h
    exact List.mem_append_left _ (List.mem_of_getLast? hlast)
  · exact List.mem_append_right _ h

theorem model_ne_nil (h : division.whole ≠ []) : division.model ≠ [] := by
  unfold model
  split_ifs with hempty
  · have hbefore : division.before ≠ [] := by
      rintro hnil
      rw [List.isEmpty_iff] at hempty
      exact h (by rw [whole, hnil, hempty, List.append_nil])
    simpa using hbefore
  · simpa using hempty

theorem ascii_parts (h : Ascii division.whole) :
    Ascii division.before ∧ Ascii division.kept ∧ Ascii division.dropped :=
  ⟨fun c hc => h c (by simp [whole, hc]), fun c hc => h c (by simp [whole, hc]),
    fun c hc => h c (by simp [whole, hc])⟩

theorem model_lowered (h : Ascii division.whole) :
    division.lowered.model = lower division.model := by
  obtain ⟨hbefore, hkept, hdropped⟩ := ascii_parts h
  have hending : (division.lowered.kept ++ division.lowered.dropped) =
      lower (division.kept ++ division.dropped) := (hkept.lower_append hdropped).symm
  have hempty : (lower (division.kept ++ division.dropped)).isEmpty =
      (division.kept ++ division.dropped).isEmpty := by
    rw [(hkept.append hdropped).lower_eq, List.isEmpty_map]
  unfold model
  rw [hending, hempty]
  split_ifs
  · have hlast : Ascii division.before.getLast?.toList := fun c hc =>
      hbefore c (List.mem_of_getLast? (by simpa using hc))
    rw [hlast.lower_eq, lowered, hbefore.lower_eq, List.getLast?_map]
    cases division.before.getLast? <;> rfl
  · rfl

/-- Small letters are kept and added as they are. -/
theorem rebuilt_lowered_eq (h : Ascii division.whole) (hadded : Small added) :
    division.lowered.rebuilt added =
      lower division.before ++ (lower division.kept ++ added) := by
  obtain ⟨hbefore, hkept, -⟩ := ascii_parts h
  have hmodel : Ascii division.model := fun c hc => h c (mem_whole_of_mem_model hc)
  rw [rebuilt_eq, model_lowered h, inCaseOf_of_lower hmodel.lower_lower]
  change lower division.before ++ lower (lower division.kept ++ added) = _
  rw [hkept.lower.lower_append hadded.ascii, hkept.lower_lower, hadded.lower_eq]

/-- What becomes of a word is in small letters what becomes of the word in small letters. -/
theorem rebuilt_lowered (h : Ascii division.whole) (hadded : Small added) :
    division.lowered.rebuilt added = lower (division.rebuilt added) := by
  obtain ⟨hbefore, hkept, -⟩ := ascii_parts h
  have hwritten := hkept.append hadded.ascii
  calc division.lowered.rebuilt added
      = lower division.before ++ (lower division.kept ++ added) := rebuilt_lowered_eq h hadded
    _ = lower division.before ++ lower (inCaseOf division.model (division.kept ++ added)) := by
        rw [hwritten.lower_inCaseOf, hkept.lower_append hadded.ascii, hadded.lower_eq]
    _ = lower (division.rebuilt added) := by
        rw [rebuilt_eq, hbefore.lower_append (hwritten.inCaseOf _)]

/-- What becomes of a word in capitals is what becomes of it in small letters, in capitals. -/
theorem rebuilt_capital (h : Capital division.whole) (hne : division.whole ≠ [])
    (hadded : Small added) :
    division.rebuilt added = upper (division.lowered.rebuilt added) := by
  have hbefore : Capital division.before := fun c hc => h c (by simp [whole, hc])
  have hkept : Capital division.kept := fun c hc => h c (by simp [whole, hc])
  have hmodel : Capital division.model := fun c hc => h c (mem_whole_of_mem_model hc)
  rw [rebuilt_lowered_eq h.ascii hadded, rebuilt_eq,
    inCaseOf_of_capital hmodel (model_ne_nil hne), upper_append, upper_append, upper_append,
    hbefore.upper_lower, hkept.upper_lower, hkept.upper_eq]

end Division

/-! ## Plurals -/

namespace Inflection

variable {i : Inflection} {word : List Char}

/-- To a word in small letters an inflection applies as it does to the word. -/
theorem of?_lower (hadded : Small i.added.toList) (h : Ascii word) :
    i.of? (lower word) = (i.of? word).map lower := by
  rw [of?, of?, Ending.divide?_lower h, Option.map_map, Option.map_map]
  refine Option.map_congr fun division hdivision => ?_
  rw [Ending.eq_whole_of_divide? hdivision] at h
  exact Division.rebuilt_lowered h hadded

/-- To a word in capitals an inflection applies as it does to the word in small letters. -/
theorem of?_capital (hadded : Small i.added.toList) (h : Capital word) (hne : word ≠ []) :
    i.of? word = (i.of? (lower word)).map upper := by
  rw [of?, of?, Ending.divide?_lower h.ascii, Option.map_map, Option.map_map]
  refine Option.map_congr fun division hdivision => ?_
  rw [Ending.eq_whole_of_divide? hdivision] at h hne
  exact Division.rebuilt_capital h hne hadded

end Inflection

/-- If everything gives what it gives otherwise, changed in one way, then so does the first that
gives a result. -/
theorem findSome?_eq_map {α β : Type} {items : List α} {f g : α → Option β} {change : β → β}
    (h : ∀ a ∈ items, f a = (g a).map change) :
    items.findSome? f = (items.findSome? g).map change := by
  induction items with
  | nil => rfl
  | cons a rest ih =>
      rw [List.findSome?_cons, List.findSome?_cons, h a (by simp),
        ih fun b hb => h b (List.mem_cons_of_mem a hb)]
      cases g a <;> rfl

theorem pluralByEnding_eq_map {word other : List Char} {change : List Char → List Char}
    (hword : word = change other)
    (h : ∀ i ∈ inflections, i.of? word = (i.of? other).map change) :
    pluralByEnding word = change (pluralByEnding other) := by
  rw [pluralByEnding_eq, pluralByEnding_eq, findSome?_eq_map h]
  cases inflections.findSome? (·.of? other) with
  | none => exact hword
  | some result => rfl

/-- What is changed in one way in the word, in the listed plurals and by the inflections is
changed so in the plural. -/
theorem pluralChars_eq_map {word other : List Char} {change : List Char → List Char}
    (hplain : lower word = lower other) (hword : word = change other)
    (hlisted : ∀ text, Small text → word ≠ [] → inCaseOf word text = change (inCaseOf other text))
    (hinflected : word ≠ [] → ∀ i ∈ inflections, i.of? word = (i.of? other).map change) :
    pluralChars word = change (pluralChars other) := by
  unfold pluralChars
  rw [hplain]
  extract_lets plain
  split_ifs with hfixed hplural
  · exact hword
  all_goals
    have hne : word ≠ [] := by
      rintro rfl
      have hempty : plain = "" := congrArg String.ofList hplain.symm
      exact hfixed (.inl (hempty ▸ rfl))
  · obtain ⟨entry, hentry, hplain⟩ := exists_of_any_plural hplural
    rw [← hplain]
    exact hlisted _ (small_irregularPlural hentry) hne
  · cases hfind : irregularPlurals.find? (·.1 == plain) with
    | some entry => exact hlisted _ (small_irregularPlural (List.mem_of_find?_eq_some hfind)) hne
    | none => exact pluralByEnding_eq_map hword (hinflected hne)

theorem pluralChars_lower {word : List Char} (h : Ascii word) :
    pluralChars (lower word) = lower (pluralChars word) := by
  apply pluralChars_eq_map h.lower_lower rfl
  · intro text htext _
    rw [inCaseOf_of_lower h.lower_lower, htext.ascii.lower_inCaseOf]
  · intro _ i hi
    exact Inflection.of?_lower (small_added hi) h

theorem pluralChars_capital {word : List Char} (h : Capital word) :
    pluralChars word = upper (pluralChars (lower word)) := by
  apply pluralChars_eq_map h.ascii.lower_lower.symm h.upper_lower.symm
  · intro text htext hne
    rw [inCaseOf_of_capital h hne, inCaseOf_of_lower h.ascii.lower_lower, htext.lower_eq]
  · intro hne i hi
    exact Inflection.of?_capital (small_added hi) h hne

/-- The plural of a word in ASCII is in lower case that of the word in lower case, and of a word
in capitals it is that plural in upper case. -/
theorem plural_in_cases (word : String) :
    ((∀ c ∈ word.toList, Unicode.isAscii c = true) →
        lowercase (plural word) = plural (lowercase word)) ∧
      ((∀ c ∈ word.toList, c.isUpper = true) →
        plural word = uppercase (plural (lowercase word))) := by
  unfold lowercase uppercase plural
  rw [String.toList_ofList, String.toList_ofList, String.toList_ofList]
  refine ⟨fun hascii => ?_, fun hcapital => ?_⟩
  · rw [pluralChars_lower hascii]
  · rw [← pluralChars_capital hcapital]

theorem plural_in_cases_mixed :
    lowercase (plural "salesPErson") = plural (lowercase "salesPErson") ∧
      plural "salesPErson" = "salespeople" ∧
      plural "INDEX" = uppercase (plural (lowercase "INDEX")) ∧ plural "INDEX" = "INDICES" := by
  have hascii : "salesPErson".toList.all Unicode.isAscii = true := by decide +kernel
  have hcapital : "INDEX".toList.all Char.isUpper = true := by decide +kernel
  have hmixed : plural "salesPErson" = "salespeople" := by decide +kernel
  have hindices : plural "INDEX" = "INDICES" := by decide +kernel
  exact ⟨(plural_in_cases _).1 (List.all_eq_true.mp hascii), hmixed,
    (plural_in_cases _).2 (List.all_eq_true.mp hcapital), hindices⟩

end ResourceSql.English
