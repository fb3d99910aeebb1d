import ResourceSql.Proofs.English.Endings

/-!
# The rules one ending at a time

A rule lists several endings, and the first one that a word has is changed.  Laid out one
after another, the endings of all rules are tried in one row, so the plural of a word is made
by the first inflection of that row that applies to it.  Which inflections can apply to a word
with a known ending is decided from their places.
-/

namespace ResourceSql.English

open LetterCase

/-- An ending and what is made of it. -/
structure Inflection where
  ending : Ending
  added : String
  start : Start
deriving DecidableEq

namespace Inflection

def places (i : Inflection) : List Place := i.ending.kept ++ i.ending.dropped

/-- What an inflection makes of a word, if it applies. -/
def of? (i : Inflection) (word : List Char) : Option (List Char) :=
  (i.ending.divide? i.start word).map (·.rebuilt i.added.toList)

/-- The inflection of words that end in what an inflection has written. -/
def again (i : Inflection) : Inflection :=
  { i with ending := { i.ending with dropped := spelled i.added } }

/-- An inflection that drops nothing and adds nothing. -/
def isIdle (i : Inflection) : Bool := i.added.isEmpty && i.ending.dropped.isEmpty

end Inflection

/-- The inflections of all rules, in the order in which they are tried. -/
def inflections : List Inflection :=
  endingRules.flatMap fun rule => rule.endings.map (⟨·, rule.added, rule.start⟩)

/-! ## What an inflection does -/

/-- A word is divided into what stands before the ending, what is kept of the ending and what is
dropped of it. -/
theorem Ending.divide?_eq_some_iff {ending : Ending} {start : Start} {word : List Char}
    {division : Division} :
    ending.divide? start word = some division ↔
      word = division.before ++ (division.kept ++ division.dropped) ∧
        fits ending.kept division.kept = true ∧ fits ending.dropped division.dropped = true ∧
        start.allows division.before = true := by
  constructor
  · intro h
    simp only [divide?] at h
    split_ifs at h with hshort hfits
    cases h
    simp only [Bool.and_eq_true] at hfits
    refine ⟨?_, hfits.1.1, hfits.1.2, hfits.2⟩
    rw [List.take_append_drop, List.take_append_drop]
  · obtain ⟨before, kept, dropped⟩ := division
    rintro ⟨rfl, hkept, hdropped, hstart⟩
    have hlong : ¬ (before ++ (kept ++ dropped)).length < kept.length + dropped.length := by simp
    have hbefore : (before ++ (kept ++ dropped)).length - (kept.length + dropped.length) =
        before.length := by
      rw [List.length_append, List.length_append, Nat.add_sub_cancel]
    simp only [divide?, length_eq_of_fits hkept, length_eq_of_fits hdropped, if_neg hlong, hbefore,
      List.take_left, List.drop_left, hkept, hdropped, hstart, Bool.and_self, if_true]

theorem Division.exists_rebuilt_eq (division : Division) (added : List Char) :
    ∃ model, division.rebuilt added = division.before ++ inCaseOf model (division.kept ++ added) :=
  ⟨_, rfl⟩

namespace Inflection

variable {i : Inflection} {word result : List Char}

theorem of?_eq_some_iff :
    i.of? word = some result ↔
      ∃ before kept dropped, word = before ++ (kept ++ dropped) ∧
        fits i.ending.kept kept = true ∧ fits i.ending.dropped dropped = true ∧
        i.start.allows before = true ∧
        (Division.mk before kept dropped).rebuilt i.added.toList = result := by
  rw [of?, Option.map_eq_some_iff]
  constructor
  · rintro ⟨⟨before, kept, dropped⟩, hdivision, hresult⟩
    obtain ⟨hword, hkept, hdropped, hstart⟩ := Ending.divide?_eq_some_iff.mp hdivision
    exact ⟨before, kept, dropped, hword, hkept, hdropped, hstart, hresult⟩
  · rintro ⟨before, kept, dropped, hword, hkept, hdropped, hstart, hresult⟩
    exact ⟨⟨before, kept, dropped⟩,
      Ending.divide?_eq_some_iff.mpr ⟨hword, hkept, hdropped, hstart⟩, hresult⟩

theorem isSome_of?_iff :
    (i.of? word).isSome = true ↔
      ∃ before tail, word = before ++ tail ∧ fits i.places tail = true ∧
        i.start.allows before = true := by
  rw [Option.isSome_iff_exists]
  constructor
  · rintro ⟨result, hresult⟩
    obtain ⟨before, kept, dropped, hword, hkept, hdropped, hstart, -⟩ := of?_eq_some_iff.mp hresult
    exact ⟨before, kept ++ dropped, hword, fits_append_iff.mpr ⟨_, _, rfl, hkept, hdropped⟩, hstart⟩
  · rintro ⟨before, tail, rfl, htail, hstart⟩
    obtain ⟨kept, dropped, rfl, hkept, hdropped⟩ := fits_append_iff.mp htail
    exact ⟨_, of?_eq_some_iff.mpr ⟨before, kept, dropped, rfl, hkept, hdropped, hstart, rfl⟩⟩

theorem endsIn_of_of? (h : i.of? word = some result) : endsIn i.places word = true := by
  obtain ⟨before, tail, rfl, htail, -⟩ := isSome_of?_iff.mp (Option.isSome_of_eq_some h)
  exact endsIn_of_fits before htail

/-- An ending that may begin anywhere applies to every word that ends so. -/
theorem isSome_of?_of_endsIn (hstart : i.start = .anywhere) (h : endsIn i.places word = true) :
    (i.of? word).isSome = true := by
  obtain ⟨before, tail, hword, htail⟩ := endsIn_iff.mp h
  exact isSome_of?_iff.mpr ⟨before, tail, hword, htail, by rw [hstart]; rfl⟩

theorem of?_of_isIdle (hidle : i.isIdle = true) (h : i.of? word = some result) : result = word := by
  obtain ⟨before, kept, dropped, rfl, hkept, hdropped, -, rfl⟩ := of?_eq_some_iff.mp h
  simp only [isIdle, Bool.and_eq_true, List.isEmpty_iff, String.isEmpty_iff] at hidle
  rw [hidle.2] at hdropped
  obtain rfl : dropped = [] := List.eq_nil_of_length_eq_zero (length_eq_of_fits hdropped).symm
  cases kept with
  | nil => simp [Division.rebuilt, hidle.1, inCaseOf, lower, lowerAfter, upper]
  | cons c kept => simp [Division.rebuilt, hidle.1, inCaseOf]

/-- Small letters at the end of the added ones end what an inflection makes, in some case. -/
theorem exists_casing {front more : List Char} (hadded : i.added.toList = front ++ more)
    (hsmall : Small more) (h : i.of? word = some result) :
    ∃ before, ∃ casing ∈ casings more, result = before ++ casing := by
  obtain ⟨before, kept, dropped, -, -, -, -, rfl⟩ := of?_eq_some_iff.mp h
  obtain ⟨model, hmodel⟩ := Division.exists_rebuilt_eq ⟨before, kept, dropped⟩ i.added.toList
  obtain ⟨start, casing, hcasing, hcase⟩ := exists_inCaseOf_append model (kept ++ front) hsmall
  refine ⟨before ++ start, casing, hcasing, ?_⟩
  rw [hmodel, hadded, ← List.append_assoc, hcase, List.append_assoc]

/-- The added letters end what an inflection makes. -/
theorem endsIn_added (hsmall : Small i.added.toList) (h : i.of? word = some result) :
    endsIn (spelled i.added) result = true := by
  obtain ⟨before, casing, hcasing, rfl⟩ := exists_casing (List.nil_append _).symm hsmall h
  exact endsIn_of_fits before (fits_spelled_iff.mpr (hsmall.map_fold_of_mem_casings hcasing))

theorem of?_eq_none_of_not_endsIn (h : endsIn i.places word = false) : i.of? word = none := by
  cases hresult : i.of? word with
  | none => rfl
  | some result =>
      rw [endsIn_of_of? hresult] at h
      cases h

/-- An inflection does not apply to a word with an ending that excludes its own. -/
theorem of?_eq_none_of_apart {ending : List Place} (happart : apart ending i.places = true)
    (h : endsIn ending word = true) : i.of? word = none :=
  of?_eq_none_of_not_endsIn (endsIn_eq_false_of_apart happart h)

end Inflection

/-! ## The first inflection that applies -/

theorem pluralByEnding_eq (word : List Char) :
    pluralByEnding word = (inflections.findSome? (·.of? word)).getD word := by
  unfold pluralByEnding inflections
  congr 1
  induction endingRules with
  | nil => rfl
  | cons rule rules ih =>
      have hrule : (rule.divide? word).map (·.rebuilt rule.added.toList) =
          (rule.endings.map (⟨·, rule.added, rule.start⟩)).findSome?
            fun i : Inflection => i.of? word := by
        rw [List.findSome?_map, EndingRule.divide?, List.map_findSome?]
        rfl
      rw [List.findSome?_cons, List.flatMap_cons, List.findSome?_append, hrule, ih]
      cases List.findSome? (fun i : Inflection => i.of? word)
        (rule.endings.map (⟨·, rule.added, rule.start⟩)) <;> rfl

/-- Whether walking through a list meets only what passes the first test, up to something that
passes the second one too. -/
def passesUntil {α : Type} (ok last : α → Bool) : List α → Bool
  | [] => false
  | a :: rest => ok a && (last a || passesUntil ok last rest)

/-- Where the second test finds what certainly gives a result, and everything before has a good
result or none, the first result is good. -/
theorem findSome?_of_passesUntil {α β : Type} {ok last : α → Bool} {f : α → Option β}
    {good : β → Prop} {items : List α} (h : passesUntil ok last items = true)
    (hok : ∀ a ∈ items, ∀ b, ok a = true → f a = some b → good b)
    (hlast : ∀ a, last a = true → (f a).isSome = true) :
    ∃ b, items.findSome? f = some b ∧ good b := by
  induction items with
  | nil => simp [passesUntil] at h
  | cons a rest ih =>
      rw [passesUntil, Bool.and_eq_true, Bool.or_eq_true] at h
      obtain ⟨hoka, hrest⟩ := h
      rw [List.findSome?_cons]
      cases hfa : f a with
      | some b => exact ⟨b, rfl, hok a (by simp) b hoka hfa⟩
      | none =>
          rcases hrest with hlasta | hrest
          · have hsome := hlast a hlasta
            rw [hfa] at hsome
            cases hsome
          · exact ih hrest fun b hb => hok b (by simp [hb])

end ResourceSql.English
