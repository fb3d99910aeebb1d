import Mathlib.Data.List.Forall2
import ResourceSql.Proofs.English.LetterCases

/-!
# Which endings a word can have

A word ends in characters at certain places, whatever their case.  Two endings that exclude
one another at some place, counted from the end, are not endings of one word, and an ending
that is narrower than another one at every place brings the other one with it.  Both are
decided from the places alone.
-/

namespace ResourceSql.English

/-! ## Places -/

namespace Place

/-- Whether no character fits both places. -/
def excludes : Place → Place → Bool
  | .among letters, .among others => letters.all (!others.contains ·)
  | .among letters, .except others => letters.all others.contains
  | .except others, .among letters => letters.all others.contains
  | .among letters, .foreign => letters.all Unicode.isAscii
  | .foreign, .among letters => letters.all Unicode.isAscii
  | _, _ => false

/-- Whether every character at the first place fits the second one. -/
def implies : Place → Place → Bool
  | .among letters, .among others => letters.all others.contains
  | .among letters, .except others => letters.all (!others.contains ·)
  | .except letters, .except others => others.all letters.contains
  | _, _ => false

variable {place other : Place} {c d : Char}

/-- Only the folded character matters to a place. -/
theorem admits_congr (place : Place) (h : fold c = fold d) : place.admits c = place.admits d := by
  cases place <;> simp only [admits, h]

theorem not_admits_of_excludes (h : place.excludes other = true) (hplace : place.admits c = true) :
    other.admits c = false := by
  cases place <;> cases other <;> simp_all [excludes, admits]
  case except.among => exact fun hc => hplace (h _ hc)
  case foreign.among => exact fun hc => by simp [h _ hc] at hplace

theorem admits_of_implies (h : place.implies other = true) (hplace : place.admits c = true) :
    other.admits c = true := by
  cases place <;> cases other <;> simp_all [implies, admits]
  case except.except => exact fun hc => hplace (h _ hc)

end Place

/-! ## Rows of places -/

theorem fits_iff {places : List Place} {cs : List Char} :
    fits places cs = true ↔ List.Forall₂ (fun place c => place.admits c = true) places cs := by
  induction places generalizing cs with
  | nil => cases cs <;> simp [fits]
  | cons place places ih => cases cs <;> simp [fits, ih]

theorem length_eq_of_fits {places : List Place} {cs : List Char} (h : fits places cs = true) :
    places.length = cs.length :=
  (fits_iff.mp h).length_eq

theorem fits_append_iff {places more : List Place} {cs : List Char} :
    fits (places ++ more) cs = true ↔
      ∃ front tail, cs = front ++ tail ∧ fits places front = true ∧ fits more tail = true := by
  induction places generalizing cs with
  | nil => simp [fits_iff]
  | cons place places ih =>
      cases cs with
      | nil => simp [fits_iff]
      | cons c cs =>
          rw [List.cons_append, fits, Bool.and_eq_true, ih]
          constructor
          · rintro ⟨hc, front, tail, rfl, hfront, htail⟩
            exact ⟨c :: front, tail, rfl, by simp [fits, hc, hfront], htail⟩
          · rintro ⟨_ | ⟨d, front⟩, tail, hcs, hfront, htail⟩
            · simp [fits] at hfront
            · obtain ⟨rfl, rfl⟩ := List.cons.inj hcs
              rw [fits, Bool.and_eq_true] at hfront
              exact ⟨hfront.1, front, tail, rfl, hfront.2, htail⟩

theorem fits_congr {places : List Place} {cs ds : List Char} (h : cs.map fold = ds.map fold) :
    fits places cs = fits places ds := by
  induction places generalizing cs ds with
  | nil => cases cs <;> cases ds <;> simp_all [fits]
  | cons place places ih =>
      cases cs <;> cases ds <;> simp only [List.map_cons, List.map_nil, reduceCtorEq] at h
      · rfl
      · obtain ⟨hhead, htail⟩ := List.cons.inj h
        rw [fits, fits, place.admits_congr hhead, ih htail]

/-- The characters at the places of a text fold onto the text. -/
theorem fits_spelled_iff {text : String} {cs : List Char} :
    fits (spelled text) cs = true ↔ cs.map fold = text.toList := by
  unfold spelled
  generalize text.toList = letters
  induction letters generalizing cs with
  | nil => cases cs <;> simp [fits]
  | cons c letters ih => cases cs <;> simp [fits, ih, Place.admits]

theorem fits_reverse {places : List Place} {cs : List Char} :
    fits places.reverse cs.reverse = fits places cs := by
  rw [Bool.eq_iff_iff, fits_iff, fits_iff, List.forall₂_reverse_iff]

/-! ## Ends of words -/

theorem fitsFront_iff {places : List Place} {cs : List Char} :
    fitsFront places cs = true ↔ ∃ front rest, cs = front ++ rest ∧ fits places front = true := by
  induction places generalizing cs with
  | nil => simp [fitsFront, fits_iff]
  | cons place places ih =>
      cases cs with
      | nil => simp [fitsFront, fits_iff]
      | cons c cs =>
          rw [fitsFront, Bool.and_eq_true, ih]
          constructor
          · rintro ⟨hc, front, rest, rfl, hfront⟩
            exact ⟨c :: front, rest, rfl, by simp [fits, hc, hfront]⟩
          · rintro ⟨_ | ⟨d, front⟩, rest, hcs, hfront⟩
            · simp [fits] at hfront
            · obtain ⟨rfl, rfl⟩ := List.cons.inj hcs
              rw [fits, Bool.and_eq_true] at hfront
              exact ⟨hfront.1, front, rest, rfl, hfront.2⟩

theorem endsIn_iff {places : List Place} {word : List Char} :
    endsIn places word = true ↔
      ∃ before tail, word = before ++ tail ∧ fits places tail = true := by
  unfold endsIn
  rw [fitsFront_iff]
  constructor
  · rintro ⟨front, rest, hword, hfront⟩
    refine ⟨rest.reverse, front.reverse, ?_, ?_⟩
    · rw [← List.reverse_append, ← hword, List.reverse_reverse]
    · rwa [← fits_reverse, List.reverse_reverse]
  · rintro ⟨before, tail, rfl, htail⟩
    exact ⟨tail.reverse, before.reverse, List.reverse_append, by rwa [fits_reverse]⟩

theorem endsIn_append {places : List Place} (before : List Char) {word : List Char}
    (h : endsIn places word = true) : endsIn places (before ++ word) = true := by
  obtain ⟨start, tail, rfl, htail⟩ := endsIn_iff.mp h
  exact endsIn_iff.mpr ⟨before ++ start, tail, (List.append_assoc ..).symm, htail⟩

theorem endsIn_of_fits {places : List Place} (before : List Char) {tail : List Char}
    (h : fits places tail = true) : endsIn places (before ++ tail) = true :=
  endsIn_iff.mpr ⟨before, tail, rfl, h⟩

/-! ## Endings against one another -/

/-- Whether two rows of places exclude one another somewhere from the front. -/
def apartFront : List Place → List Place → Bool
  | place :: places, other :: others => place.excludes other || apartFront places others
  | _, _ => false

/-- Whether two rows of places exclude one another somewhere from the end. -/
def apart (places others : List Place) : Bool := apartFront places.reverse others.reverse

/-- Whether every beginning that fits the first row of places fits the second one. -/
def narrowerFront : List Place → List Place → Bool
  | _, [] => true
  | [], _ :: _ => false
  | place :: places, other :: others => place.implies other && narrowerFront places others

/-- Whether every end that fits the first row of places fits the second one. -/
def narrower (places others : List Place) : Bool :=
  narrowerFront places.reverse others.reverse

theorem fitsFront_of_apartFront {places others : List Place} {cs : List Char}
    (h : apartFront places others = true) (hplaces : fitsFront places cs = true) :
    fitsFront others cs = false := by
  induction places generalizing others cs with
  | nil => simp [apartFront] at h
  | cons place places ih =>
      cases others with
      | nil => simp [apartFront] at h
      | cons other others =>
          cases cs with
          | nil => rfl
          | cons c cs =>
              rw [fitsFront, Bool.and_eq_true] at hplaces
              rw [fitsFront, Bool.and_eq_false_iff]
              rcases Bool.or_eq_true_iff.mp h with hexcludes | hrest
              · exact .inl (Place.not_admits_of_excludes hexcludes hplaces.1)
              · exact .inr (ih hrest hplaces.2)

theorem fitsFront_of_narrowerFront {places others : List Place} {cs : List Char}
    (h : narrowerFront places others = true) (hplaces : fitsFront places cs = true) :
    fitsFront others cs = true := by
  induction others generalizing places cs with
  | nil => rfl
  | cons other others ih =>
      cases places with
      | nil => simp [narrowerFront] at h
      | cons place places =>
          cases cs with
          | nil => simp [fitsFront] at hplaces
          | cons c cs =>
              rw [fitsFront, Bool.and_eq_true] at hplaces ⊢
              rw [narrowerFront, Bool.and_eq_true] at h
              exact ⟨Place.admits_of_implies h.1 hplaces.1, ih h.2 hplaces.2⟩

/-- A word has only one of two endings that exclude one another. -/
theorem endsIn_eq_false_of_apart {places others : List Place} {word : List Char}
    (h : apart places others = true) (hplaces : endsIn places word = true) :
    endsIn others word = false :=
  fitsFront_of_apartFront h hplaces

/-- A word with an ending has every wider one. -/
theorem endsIn_of_narrower {places others : List Place} {word : List Char}
    (h : narrower places others = true) (hplaces : endsIn places word = true) :
    endsIn others word = true :=
  fitsFront_of_narrowerFront h hplaces

end ResourceSql.English
