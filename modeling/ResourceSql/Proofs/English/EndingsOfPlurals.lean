import ResourceSql.Proofs.English.Inflections

/-!
# Endings of plurals

A plural ends in what some inflection has written.  The inflection that finds its own letters
again changes nothing, so a plural is the plural of itself if no inflection before that one
applies to it.  For what particular inflections write this is decided from their places.  A
plain `s` can complete the ending of a singular, and then the plural becomes another word.
-/

namespace ResourceSql.English

open LetterCase

/-! ## The row of inflections -/

/-- The inflection of words that no ending tells anything of. -/
def plain : Inflection := { ending := { kept := [] }, added := "s", start := .anywhere }

/-- The inflections that are tried before the plain plural. -/
def particular : List Inflection :=
  endingRules.dropLast.flatMap fun rule => rule.endings.map (⟨·, rule.added, rule.start⟩)

theorem inflections_eq : inflections = particular ++ [plain.again, plain] := by decide +kernel

theorem small_added {i : Inflection} (h : i ∈ inflections) : Small i.added.toList := by
  have hall : inflections.all (fun i => i.added.toList.all Char.isLower) = true := by
    decide +kernel
  intro c hc
  exact List.all_eq_true.mp (List.all_eq_true.mp hall i h) c hc

/-- The plural comes from a particular inflection, or none of them applies and it is plain. -/
theorem pluralByEnding_cases (word : List Char) :
    (∃ i ∈ particular, i.of? word = some (pluralByEnding word)) ∨
      (∀ i ∈ particular, i.of? word = none) ∧
        (plain.again.of? word = some (pluralByEnding word) ∨
          plain.again.of? word = none ∧ plain.of? word = some (pluralByEnding word)) := by
  rw [pluralByEnding_eq, inflections_eq, List.findSome?_append]
  cases hfirst : particular.findSome? (·.of? word) with
  | some result => exact .inl (List.exists_of_findSome?_eq_some hfirst)
  | none =>
      refine .inr ⟨List.findSome?_eq_none_iff.mp hfirst, ?_⟩
      cases hagain : plain.again.of? word with
      | some result => simp [hagain]
      | none =>
          have happlies : (plain.of? word).isSome = true :=
            Inflection.isSome_of?_of_endsIn rfl rfl
          obtain ⟨result, hresult⟩ := Option.isSome_iff_exists.mp happlies
          simp [hagain, hresult]

/-! ## Words that an inflection finds again -/

theorem small_s : Small ['s'] := by simp [Small]

namespace Inflection

/-- Whether every inflection is excluded, is idle, or finds its own letters again, up to the one
that finds its own letters. -/
def settles (again : Inflection) (excluded : Inflection → Bool) : Bool :=
  passesUntil (fun k => excluded k || k.isIdle || k == again) (· == again) inflections

theorem pluralByEnding_eq_self {again : Inflection} {excluded : Inflection → Bool}
    {word : List Char} (h : again.settles excluded = true) (hagain : again.of? word = some word)
    (hexcluded : ∀ k, excluded k = true → k.of? word = none) : pluralByEnding word = word := by
  have hok : ∀ k ∈ inflections, ∀ result, (excluded k || k.isIdle || k == again) = true →
      k.of? word = some result → result = word := by
    intro k _ result hk hresult
    simp only [Bool.or_eq_true, beq_iff_eq] at hk
    rcases hk with (hk | hk) | rfl
    · simp [hexcluded k hk] at hresult
    · exact of?_of_isIdle hk hresult
    · exact Option.some.inj (hresult.symm.trans hagain)
  obtain ⟨result, hresult, rfl⟩ := findSome?_of_passesUntil h hok fun k hk => by
    rw [beq_iff_eq.mp hk, hagain]
    rfl
  rw [pluralByEnding_eq, hresult]
  rfl

/-- An inflection finds its own letters again where they are in the case that they get. -/
theorem again_of? {i : Inflection} {before front tail : List Char}
    (hfront : fits i.ending.kept front = true) (htail : tail.map fold = i.added.toList)
    (hstart : i.start.allows before = true) (hne : i.added ≠ "")
    (hcase : inCaseOf (front ++ tail) (front ++ i.added.toList) = front ++ tail) :
    i.again.of? (before ++ (front ++ tail)) = some (before ++ (front ++ tail)) := by
  refine of?_eq_some_iff.mpr
    ⟨before, front, tail, rfl, hfront, fits_spelled_iff.mpr htail, hstart, ?_⟩
  have hend : (front ++ tail).isEmpty = false := by
    cases tail with
    | nil => exact absurd (String.toList_eq_nil_iff.mp htail.symm) hne
    | cons => simp
  simp only [Division.rebuilt, hend, Bool.false_eq_true, if_false]
  exact congrArg (before ++ ·) hcase

/-- A plain plural is found again in the case of its `s`. -/
theorem plain_again_of? (before : List Char) {casing : List Char} (h : casing ∈ casings ['s']) :
    plain.again.of? (before ++ casing) = some (before ++ casing) := by
  have hnothing : fits plain.ending.kept [] = true := rfl
  exact again_of? hnothing (small_s.map_fold_of_mem_casings h) rfl (by decide)
    (inCaseOf_of_mem_casings small_s h)

end Inflection

/-! ## Plurals in `es` -/

theorem es_settles :
    plain.again.settles (fun k => apart (spelled "es") k.places) = true := by
  decide +kernel

theorem casings_es {casing : List Char} (h : casing ∈ casings "es".toList) :
    ∃ e s, casing = [e, s] ∧ [s] ∈ casings ['s'] := by
  have hall : ∀ casing ∈ casings "es".toList,
      casing = [casing.headD 'e', casing.getLastD 's'] ∧
        [casing.getLastD 's'] ∈ casings ['s'] := by
    decide +kernel
  exact ⟨_, _, hall casing h⟩

/-- Before a plural in `es` is found again, no inflection applies to it. -/
theorem pluralByEnding_of_es {i : Inflection} {word result : List Char}
    (hadded : "es".toList.isSuffixOf i.added.toList = true) (h : i.of? word = some result) :
    pluralByEnding result = result := by
  obtain ⟨front, hfront⟩ := List.isSuffixOf_iff_suffix.mp hadded
  have hsmall : Small "es".toList := by simp [Small]
  obtain ⟨before, casing, hcasing, rfl⟩ := Inflection.exists_casing hfront.symm hsmall h
  have hends : endsIn (spelled "es") (before ++ casing) = true :=
    endsIn_of_fits before (fits_spelled_iff.mpr (hsmall.map_fold_of_mem_casings hcasing))
  obtain ⟨e, s, rfl, hs⟩ := casings_es hcasing
  refine Inflection.pluralByEnding_eq_self es_settles ?_ fun k hk =>
    Inflection.of?_eq_none_of_apart hk hends
  have hagain := Inflection.plain_again_of? (before ++ [e]) hs
  rwa [List.append_assoc] at hagain

/-! ## Plurals that come from the same inflection again -/

def Place.isLettered : Place → Bool
  | .among letters => letters.all Char.isLower
  | _ => false

theorem Place.mem_letters_of_isLettered {place : Place} {c : Char}
    (hplace : place.isLettered = true) (h : place.admits c = true) : c ∈ letters := by
  cases place with
  | among letters =>
      exact mem_letters (List.all_eq_true.mp hplace _ (List.contains_iff_mem.mp h))
  | except letters => cases hplace
  | foreign => cases hplace

theorem lettered_of_fits {places : List Place} {cs : List Char}
    (hplaces : places.all Place.isLettered = true) (h : fits places cs = true) : Lettered cs := by
  induction places generalizing cs with
  | nil =>
      cases cs with
      | nil => exact nofun
      | cons => simp [fits] at h
  | cons place places ih =>
      cases cs with
      | nil => exact nofun
      | cons c cs =>
          rw [fits, Bool.and_eq_true] at h
          rw [List.all_cons, Bool.and_eq_true] at hplaces
          intro d hd
          rcases List.mem_cons.mp hd with rfl | hd
          · exact Place.mem_letters_of_isLettered hplaces.1 h.1
          · exact ih hplaces.2 h.2 d hd

def smallLetters : List Char := "abcdefghijklmnopqrstuvwxyz".toList

/-- Where a word may begin, there is no letter before. -/
theorem admits_except_smallLetters {c : Char} (h : Unicode.isWordCharacter c = false) :
    (Place.except smallLetters).admits c = true := by
  have hall : smallLetters.all Char.isLower = true := by decide +kernel
  cases hletter : smallLetters.contains (fold c) with
  | false => simp only [Place.admits, hletter, Bool.not_false]
  | true =>
      have hlower := List.all_eq_true.mp hall _ (List.contains_iff_mem.mp hletter)
      rw [isWordCharacter_of_mem_letters (mem_letters hlower)] at h
      cases h

namespace Inflection

/-- The places of what an inflection writes, and of what stands before. -/
def written (i : Inflection) : List Place :=
  (if i.start = .ofWord then [.except smallLetters] else []) ++ (i.ending.kept ++ spelled i.added)

theorem of?_eq_none_of_apart_written {i k : Inflection} {before tail : List Char}
    (happart : apart i.written k.places = true)
    (htail : fits (i.ending.kept ++ spelled i.added) tail = true)
    (hstart : i.start.allows before = true) : k.of? (before ++ tail) = none := by
  by_cases hword : i.start = .ofWord
  · have hwritten : ∀ c, Unicode.isWordCharacter c = false →
        fits i.written ([c] ++ tail) = true := by
      intro c hc
      rw [written, if_pos hword]
      refine fits_append_iff.mpr ⟨[c], tail, rfl, ?_, htail⟩
      simp [fits, admits_except_smallLetters hc]
    rcases List.eq_nil_or_concat before with rfl | ⟨front, c, rfl⟩
    · -- An ending that is longer than the word would still be one after a hyphen.
      have hends : endsIn i.written (['-'] ++ tail) = true :=
        endsIn_of_fits [] (hwritten '-' (by decide))
      refine of?_eq_none_of_not_endsIn (Bool.eq_false_iff.mpr fun hplaces => ?_)
      have hlonger := endsIn_append ['-'] hplaces
      rw [List.nil_append, endsIn_eq_false_of_apart happart hends] at hlonger
      cases hlonger
    · have hc : Unicode.isWordCharacter c = false := by simpa [Start.allows, hword] using hstart
      rw [List.concat_eq_append, List.append_assoc]
      exact of?_eq_none_of_apart happart (endsIn_of_fits front (hwritten c hc))
  · refine of?_eq_none_of_apart happart (endsIn_of_fits before ?_)
    rwa [written, if_neg hword]

/-- Whether what an inflection writes is kept apart from the endings of all inflections before
the one that finds its letters again. -/
def returns (i : Inflection) : Bool :=
  i.ending.kept.all Place.isLettered && !i.added.isEmpty &&
    i.again.settles fun k => apart i.written k.places

theorem pluralByEnding_of_returns {i : Inflection} {word result : List Char}
    (hreturns : i.returns = true) (hsmall : Small i.added.toList) (h : i.of? word = some result) :
    pluralByEnding result = result := by
  simp only [returns, Bool.and_eq_true, Bool.not_eq_true', String.isEmpty_eq_false_iff] at hreturns
  obtain ⟨⟨hplaces, hne⟩, hsettles⟩ := hreturns
  obtain ⟨before, kept, dropped, -, hkept, -, hstart, rfl⟩ := of?_eq_some_iff.mp h
  have hlettered := lettered_of_fits hplaces hkept
  obtain ⟨model, hmodel⟩ := Division.exists_rebuilt_eq ⟨before, kept, dropped⟩ i.added.toList
  rw [hmodel]
  have hfold := map_fold_inCaseOf model (hlettered.append hsmall.lettered)
  rw [List.map_append, hsmall.map_fold] at hfold
  obtain ⟨front, tail, hparts, hfront, htail⟩ := List.map_eq_append_iff.mp hfold
  have hfits : fits i.ending.kept front = true := by rwa [fits_congr hfront]
  have hlength : front.length = kept.length := by simpa using congrArg List.length hfront
  have hcase := inCaseOf_again hlettered hsmall hparts hlength
  rw [hparts]
  exact pluralByEnding_eq_self hsettles (again_of? hfits htail hstart hne hcase) fun k hk =>
    of?_eq_none_of_apart_written hk
      (fits_append_iff.mpr ⟨front, tail, rfl, hfits, fits_spelled_iff.mpr htail⟩) hstart

end Inflection

/-! ## Plurals of a particular inflection -/

/-- Of every particular inflection the plurals are found again; only the plural of "thou" is
found in a word list. -/
theorem particular_returns : particular.all (fun i => i.isIdle ||
    "es".toList.isSuffixOf i.added.toList || i.returns ||
      i.start == .ofText && i.ending.kept == [] && i.added == "you") = true := by
  decide +kernel

theorem mem_inflections_of_mem_particular {i : Inflection} (h : i ∈ particular) :
    i ∈ inflections := by
  rw [inflections_eq]
  exact List.mem_append_left _ h

theorem pluralByEnding_of_particular {i : Inflection} {word result : List Char}
    (hi : i ∈ particular) (hresult : pluralByEnding word = result) (h : i.of? word = some result)
    (hyou : lower result ≠ "you".toList) : pluralByEnding result = result := by
  have hsmall := small_added (mem_inflections_of_mem_particular hi)
  have hkind := List.all_eq_true.mp particular_returns i hi
  simp only [Bool.or_eq_true, Bool.and_eq_true, beq_iff_eq] at hkind
  rcases hkind with ((hidle | hes) | hreturns) | ⟨⟨hstart, hnothing⟩, hadded⟩
  · rwa [Inflection.of?_of_isIdle hidle h] at hresult ⊢
  · exact pluralByEnding_of_es hes h
  · exact Inflection.pluralByEnding_of_returns hreturns hsmall h
  · refine absurd ?_ hyou
    obtain ⟨before, kept, dropped, -, hkept, -, hbefore, rfl⟩ := Inflection.of?_eq_some_iff.mp h
    obtain ⟨model, hmodel⟩ := Division.exists_rebuilt_eq ⟨before, kept, dropped⟩ i.added.toList
    rw [hstart, Start.allows, List.isEmpty_iff] at hbefore
    rw [hnothing] at hkept
    obtain rfl := List.eq_nil_of_length_eq_zero (length_eq_of_fits hkept).symm
    rw [hmodel, hbefore, List.nil_append, List.nil_append, ← hadded]
    exact hsmall.lower_of_mem_casings (inCaseOf_mem_casings model hsmall)

/-! ## Plain plurals -/

theorem exists_of_mem_casings_s {casing : List Char} (h : casing ∈ casings ['s']) :
    ∃ s, casing = [s] ∧ fold s = 's' := by
  have hfold := small_s.map_fold_of_mem_casings h
  obtain ⟨s, rfl, hs⟩ := List.map_eq_singleton_iff.mp hfold
  exact ⟨s, rfl, hs⟩

theorem exists_of_plain {word result : List Char} (h : plain.of? word = some result) :
    ∃ casing ∈ casings ['s'], result = word ++ casing := by
  obtain ⟨before, kept, dropped, rfl, hkept, hdropped, -, rfl⟩ := Inflection.of?_eq_some_iff.mp h
  obtain rfl := List.eq_nil_of_length_eq_zero (length_eq_of_fits hkept).symm
  obtain rfl := List.eq_nil_of_length_eq_zero (length_eq_of_fits hdropped).symm
  obtain ⟨model, hmodel⟩ := Division.exists_rebuilt_eq ⟨before, [], []⟩ ['s']
  refine ⟨inCaseOf model ['s'], inCaseOf_mem_casings model small_s, ?_⟩
  rw [List.append_nil, List.append_nil]
  exact hmodel

theorem exists_of_plain_again {word result : List Char} (h : plain.again.of? word = some result) :
    ∃ before s, ∃ casing ∈ casings ['s'],
      word = before ++ [s] ∧ fold s = 's' ∧ result = before ++ casing := by
  obtain ⟨before, kept, dropped, rfl, hkept, hdropped, -, rfl⟩ := Inflection.of?_eq_some_iff.mp h
  obtain rfl := List.eq_nil_of_length_eq_zero (length_eq_of_fits hkept).symm
  obtain ⟨s, rfl, hs⟩ := List.map_eq_singleton_iff.mp (fits_spelled_iff.mp hdropped)
  obtain ⟨model, hmodel⟩ := Division.exists_rebuilt_eq ⟨before, [], [s]⟩ ['s']
  exact ⟨before, s, _, inCaseOf_mem_casings model small_s, rfl, hs, hmodel⟩

theorem places_ne_nil {i : Inflection} (h : i ∈ particular) : i.places ≠ [] := by
  have hall : particular.all (fun i => !i.places.isEmpty) = true := by decide +kernel
  simpa using List.all_eq_true.mp hall i h

/-- Whether an inflection applies does not change with the case of the last character. -/
theorem Inflection.isSome_of?_of_fold_eq {i : Inflection} {before : List Char} {c d : Char}
    (hplaces : i.places ≠ []) (hfold : fold c = fold d)
    (h : (i.of? (before ++ [c])).isSome = true) : (i.of? (before ++ [d])).isSome = true := by
  obtain ⟨front, tail, hword, htail, hstart⟩ := isSome_of?_iff.mp h
  rcases List.eq_nil_or_concat tail with rfl | ⟨middle, e, rfl⟩
  · exact absurd (List.eq_nil_of_length_eq_zero (length_eq_of_fits htail)) hplaces
  · rw [List.concat_eq_append, ← List.append_assoc] at hword
    obtain ⟨rfl, hlast⟩ := List.append_inj' hword rfl
    obtain rfl := List.singleton_inj.mp hlast
    refine isSome_of?_iff.mpr ⟨front, middle ++ [d], List.append_assoc .., ?_, hstart⟩
    have hlast : (middle ++ [d]).map fold = (middle.concat c).map fold := by simp [hfold]
    rwa [fits_congr hlast]

/-- No particular inflection applies to a word with another `s` at its end if none did before. -/
theorem pluralByEnding_of_plain_again {word result : List Char}
    (hnone : ∀ i ∈ particular, i.of? word = none) (h : plain.again.of? word = some result) :
    pluralByEnding result = result := by
  obtain ⟨before, s, casing, hcasing, rfl, hs, rfl⟩ := exists_of_plain_again h
  have hagain := Inflection.plain_again_of? before hcasing
  have hstill : particular.findSome? (·.of? (before ++ casing)) = none := by
    obtain ⟨t, rfl, ht⟩ := exists_of_mem_casings_s hcasing
    rw [List.findSome?_eq_none_iff]
    intro i hi
    rw [← Option.not_isSome_iff_eq_none]
    intro hsome
    have hword := Inflection.isSome_of?_of_fold_eq (places_ne_nil hi) (ht.trans hs.symm) hsome
    rw [hnone i hi] at hword
    cases hword
  rw [pluralByEnding_eq, inflections_eq, List.findSome?_append, hstill]
  simp [hagain]

/-- Whether an ending that begins anywhere applies before its last character is there. -/
def early (places : List Place) : Bool :=
  (particular ++ [plain.again]).any fun k =>
    k.start == .anywhere && narrower places.dropLast k.places

theorem endsIn_dropLast {places : List Place} {word : List Char} {c : Char}
    (h : endsIn places (word ++ [c]) = true) : endsIn places.dropLast word = true := by
  unfold endsIn at h ⊢
  rw [List.reverse_append] at h
  rw [← List.tail_reverse]
  cases hplaces : places.reverse with
  | nil => rfl
  | cons place rest =>
      rw [hplaces] at h
      exact (Bool.and_eq_true_iff.mp h).2

theorem not_endsIn_of_early {places : List Place} {word : List Char} {s : Char}
    (hnone : ∀ i ∈ particular ++ [plain.again], i.of? word = none)
    (hearly : early places = true) : endsIn places (word ++ [s]) = false := by
  obtain ⟨k, hk, hnarrower⟩ := List.any_eq_true.mp hearly
  simp only [Bool.and_eq_true, beq_iff_eq] at hnarrower
  rw [Bool.eq_false_iff]
  intro h
  have hsome := Inflection.isSome_of?_of_endsIn hnarrower.1
    (endsIn_of_narrower hnarrower.2 (endsIn_dropLast h))
  rw [hnone k hk] at hsome
  cases hsome

theorem pluralEndings_early : pluralEndings.all early = true := by
  decide +kernel

/-- An ending that a plain plural can have is that of a singular, or was there without the `s`. -/
theorem plain_settles : plain.again.settles (fun k => apart (spelled "s") k.places ||
    singularEndings.any (narrower k.places ·) || early k.places) = true := by
  decide +kernel

theorem pluralByEnding_of_plain {word result : List Char}
    (hnone : ∀ i ∈ particular ++ [plain.again], i.of? word = none)
    (h : plain.of? word = some result) (hends : endsAsSingular result = false) :
    pluralByEnding result = result := by
  obtain ⟨casing, hcasing, rfl⟩ := exists_of_plain h
  refine Inflection.pluralByEnding_eq_self plain_settles
    (Inflection.plain_again_of? word hcasing) fun k hk => ?_
  have hs : endsIn (spelled "s") (word ++ casing) = true :=
    endsIn_of_fits word (fits_spelled_iff.mpr (small_s.map_fold_of_mem_casings hcasing))
  obtain ⟨s, rfl, -⟩ := exists_of_mem_casings_s hcasing
  rw [Bool.or_eq_true, Bool.or_eq_true] at hk
  apply Inflection.of?_eq_none_of_not_endsIn
  rcases hk with (hapart | hsingular) | hearly
  · exact endsIn_eq_false_of_apart hapart hs
  · rw [Bool.eq_false_iff]
    intro hplaces
    -- With the ending of a singular the word has one of the plurals in `us`, without its `s`.
    obtain ⟨ending, hending, hnarrower⟩ := List.any_eq_true.mp hsingular
    have hany : singularEndings.any (endsIn · (word ++ [s])) = true :=
      List.any_eq_true.mpr ⟨ending, hending, endsIn_of_narrower hnarrower hplaces⟩
    rw [endsAsSingular, hany, Bool.true_and, Bool.not_eq_false', List.any_eq_true] at hends
    obtain ⟨plural, hplural, hword⟩ := hends
    rw [not_endsIn_of_early hnone (List.all_eq_true.mp pluralEndings_early plural hplural)] at hword
    cases hword
  · exact not_endsIn_of_early hnone hearly

/-! ## Endings of singulars -/

theorem singularEndings_apart : (singularEndings.all fun ending =>
    passesUntil (fun k => apart ending k.places || apart ending (spelled k.added) ||
        pluralEndings.contains k.places)
      (fun k => k.start == .anywhere && narrower ending k.places) inflections) = true := by
  decide +kernel

theorem pluralByEnding_ne_self {word : List Char} (h : endsAsSingular word = true) :
    pluralByEnding word ≠ word := by
  rw [endsAsSingular, Bool.and_eq_true, Bool.not_eq_true', List.any_eq_true] at h
  obtain ⟨⟨ending, hending, hword⟩, hnot⟩ := h
  have hok : ∀ k ∈ inflections, ∀ result, (apart ending k.places ||
      apart ending (spelled k.added) || pluralEndings.contains k.places) = true →
        k.of? word = some result → result ≠ word := by
    intro k hmem result hk hresult
    simp only [Bool.or_eq_true, List.contains_iff_mem] at hk
    rcases hk with (hapart | hapart) | hplural
    · rw [Inflection.of?_eq_none_of_apart hapart hword] at hresult
      cases hresult
    · rintro rfl
      have hadded := Inflection.endsIn_added (small_added hmem) hresult
      rw [endsIn_eq_false_of_apart hapart hword] at hadded
      cases hadded
    · have hany : pluralEndings.any (endsIn · word) = true :=
        List.any_eq_true.mpr ⟨_, hplural, Inflection.endsIn_of_of? hresult⟩
      rw [hnot] at hany
      cases hany
  obtain ⟨result, hresult, hne⟩ := findSome?_of_passesUntil
    (List.all_eq_true.mp singularEndings_apart ending hending) hok fun k hk => by
      simp only [Bool.and_eq_true, beq_iff_eq] at hk
      exact Inflection.isSome_of?_of_endsIn hk.1 (endsIn_of_narrower hk.2 hword)
  rw [pluralByEnding_eq, hresult]
  exact hne

theorem pluralByEnding_eq_self_iff {word result : List Char}
    (hresult : pluralByEnding word = result) (hyou : lower result ≠ "you".toList) :
    pluralByEnding result = result ↔ endsAsSingular result = false := by
  constructor
  · intro h
    rw [Bool.eq_false_iff]
    exact fun hends => pluralByEnding_ne_self hends h
  · intro hends
    rcases pluralByEnding_cases word with ⟨i, hi, h⟩ | ⟨hnone, h | ⟨hagain, h⟩⟩ <;>
      rw [hresult] at h
    · exact pluralByEnding_of_particular hi hresult h hyou
    · exact pluralByEnding_of_plain_again hnone h
    · refine pluralByEnding_of_plain (fun k hk => ?_) h hends
      rcases List.mem_append.mp hk with hk | hk
      · exact hnone k hk
      · rwa [List.mem_singleton.mp hk]

end ResourceSql.English
