import Mathlib.Data.List.Basic
import ResourceSql.Proofs.SnakeCase

/-!
# Column names stay as they are

A name in snake case is made of small words with underscores between them.  The words
of such a name are these words again, so a column that is already named in this way
keeps its name.  All of this is for names in ASCII, where every letter has one form of
either case.
-/

namespace ResourceSql

namespace SnakeCase

open Unicode

/-- A small letter or a digit of ASCII. -/
def isSmall (c : Char) : Bool := isAscii c && (c.isLower || c.isDigit)

structure SmallWord (word : List Char) : Prop where
  ne_nil : word ≠ []
  small : ∀ c ∈ word, isSmall c = true

/-! ## Characters of ASCII -/

theorem isAscii_of_isSmall {c : Char} (h : isSmall c = true) : isAscii c = true :=
  (Bool.and_eq_true_iff.mp h).1

/-- Small letters and digits continue a word, and are their own lower-case forms. -/
theorem of_isSmall {c : Char} (h : isSmall c = true) :
    isAlphanumeric c = true ∧ isUppercase c = false ∧ LetterCase.lowerChar c = [c] := by
  have hall : decide (isSmall c = true → isAlphanumeric c = true ∧ isUppercase c = false ∧
      LetterCase.lowerChar c = [c]) = true :=
    of_isAscii (p := fun c => decide (isSmall c = true → isAlphanumeric c = true ∧
      isUppercase c = false ∧ LetterCase.lowerChar c = [c])) (by decide) (isAscii_of_isSmall h)
  exact of_decide_eq_true hall h

/-- Letters and digits of ASCII have one small form. -/
theorem exists_lowerChar_eq {c : Char} (hascii : isAscii c = true)
    (hc : isAlphanumeric c = true) : ∃ d, LetterCase.lowerChar c = [d] ∧ isSmall d = true := by
  have hall : decide (isAlphanumeric c = true → isSmall c.toLower = true) = true :=
    of_isAscii (p := fun c => decide (isAlphanumeric c = true → isSmall c.toLower = true))
      (by decide) hascii
  exact ⟨c.toLower, by simp [LetterCase.lowerChar, hascii], of_decide_eq_true hall hc⟩

/-! ## The words of a name are small words -/

/-- Cutting never leaves an empty word: after a capital the current word has one. -/
theorem ne_nil_of_mem_cutWords {run : Run} {front cs word : List Char}
    (hrun : run = .capital → front ≠ []) (hword : word ∈ cutWords run front cs) :
    word ≠ [] := by
  fun_induction cutWords run front cs with
  | case1 => cases hword
  | case2 run front c =>
      rw [List.mem_singleton.mp hword]
      simp
  | case3 run front c next rest hcut ih =>
      rcases List.mem_cons.mp hword with rfl | hword
      · simp
      · exact ih (by simp) hword
  | case4 run front c next rest hcut hlast ih =>
      rcases List.mem_cons.mp hword with rfl | hword
      · simpa using hrun hlast.1
      · exact ih (by simp) hword
  | case5 run front c next rest hcut hlast ih => exact ih (fun _ => by simp) hword

theorem ne_nil_of_mem_wordsOf {name word : List Char} (hword : word ∈ wordsOf name) :
    word ≠ [] := by
  obtain ⟨part, -, hcut⟩ := List.mem_flatMap.mp hword
  have hrun : Run.uncased = .capital → ([] : List Char) ≠ [] := nofun
  exact ne_nil_of_mem_cutWords hrun hcut

theorem smallWord_lowerWord {word : List Char} (hne : word ≠ [])
    (hword : ∀ c ∈ word, isAscii c = true ∧ isAlphanumeric c = true) :
    SmallWord (lowerWord word) := by
  fun_induction lowerWord word with
  | case1 => exact absurd rfl hne
  | case2 => exact absurd (hword 'Σ' (by simp)).1 (by decide)
  | case3 c hc =>
      obtain ⟨d, hd, hsmall⟩ := exists_lowerChar_eq (hword c (by simp)).1 (hword c (by simp)).2
      rw [hd]
      exact ⟨by simp, by simpa using hsmall⟩
  | case4 c rest hrest ih =>
      obtain ⟨d, hd, hsmall⟩ := exists_lowerChar_eq (hword c (by simp)).1 (hword c (by simp)).2
      have htail : SmallWord (lowerWord rest) := by
        apply ih
        · exact fun hnil => hrest hnil
        · intro e he
          exact hword e (List.mem_cons_of_mem c he)
      rw [hd]
      refine ⟨by simp, ?_⟩
      intro e he
      rcases List.mem_cons.mp he with rfl | he
      · exact hsmall
      · exact htail.small e he

/-- The words of a name in ASCII, in lower case, are small words. -/
theorem smallWord_of_mem {name : List Char} (hname : ∀ c ∈ name, isAscii c = true)
    {word : List Char} (hword : word ∈ (wordsOf name).map lowerWord) : SmallWord word := by
  obtain ⟨cut, hcut, rfl⟩ := List.mem_map.mp hword
  apply smallWord_lowerWord (ne_nil_of_mem_wordsOf hcut)
  intro c hc
  obtain ⟨hmem, halnum⟩ := mem_of_mem_wordsOf hcut hc
  exact ⟨hname c hmem, halnum⟩

/-! ## Small words are kept -/

/-- Small letters and digits are one word: there is no capital to cut before. -/
theorem cutWords_of_small {run : Run} (hrun : run ≠ .capital) (front : List Char)
    {cs : List Char} (hne : cs ≠ []) (hcs : ∀ c ∈ cs, isSmall c = true) :
    cutWords run front cs = [front.reverse ++ cs] := by
  fun_induction cutWords run front cs with
  | case1 => exact absurd rfl hne
  | case2 run front c => simp
  | case3 run front c next rest hcut ih =>
      have hnext := (of_isSmall (hcs next (by simp))).2.1
      rw [hnext] at hcut
      exact absurd hcut.2 Bool.false_ne_true
  | case4 run front c next rest hcut hlast ih => exact absurd hlast.1 hrun
  | case5 run front c next rest hcut hlast ih =>
      have hafter : run.after c ≠ .capital := by
        unfold Run.after
        rw [(of_isSmall (hcs c (by simp))).2.1]
        split
        · simp
        · exact hrun
      rw [ih hafter (by simp) fun d hd => hcs d (List.mem_cons_of_mem c hd)]
      simp

theorem lowerWord_of_small {word : List Char} (hword : ∀ c ∈ word, isSmall c = true) :
    lowerWord word = word := by
  fun_induction lowerWord word with
  | case1 => rfl
  | case2 => exact absurd (hword 'Σ' (by simp)) (by decide)
  | case3 c hc => exact (of_isSmall (hword c (by simp))).2.2
  | case4 c rest hrest ih =>
      rw [(of_isSmall (hword c (by simp))).2.2, ih fun d hd => hword d (List.mem_cons_of_mem c hd)]
      rfl

/-- The parts between separators, of words without separators joined by one, are the words. -/
theorem splitOnP_intercalate {p : Char → Bool} {sep : Char} (hsep : p sep = true)
    {words : List (List Char)} (hne : words ≠ [])
    (hwords : ∀ word ∈ words, ∀ c ∈ word, p c = false) :
    (List.intercalate [sep] words).splitOnP p = words := by
  induction words with
  | nil => exact absurd rfl hne
  | cons first rest ih =>
      have hfirst := hwords first (by simp)
      by_cases hrest : rest = []
      · subst hrest
        simpa using List.splitOnP_eq_singleton hfirst
      · have htail := ih hrest fun word hword => hwords word (List.mem_cons_of_mem first hword)
        have hjoin : List.intercalate [sep] (first :: rest) =
            first ++ sep :: List.intercalate [sep] rest := by
          obtain ⟨second, more, rfl⟩ := List.exists_cons_of_ne_nil hrest
          simp [List.intercalate]
        rw [hjoin, List.splitOnP_append_cons first _ hsep, htail,
          List.splitOnP_eq_singleton hfirst]
        rfl

theorem wordsOf_intercalate {words : List (List Char)} (hwords : ∀ word ∈ words, SmallWord word) :
    wordsOf (List.intercalate ['_'] words) = words := by
  by_cases hne : words = []
  · subst hne
    rfl
  · have hparts : (List.intercalate ['_'] words).splitOnP (fun c => !isAlphanumeric c) = words := by
      apply splitOnP_intercalate (by decide) hne
      intro word hword c hc
      rw [(of_isSmall ((hwords word hword).small c hc)).1]
      rfl
    have hrun : Run.uncased ≠ .capital := nofun
    have hcut : ∀ word ∈ words, cutWords .uncased [] word = [word] := fun word hword =>
      cutWords_of_small hrun [] (hwords word hword).ne_nil (hwords word hword).small
    rw [wordsOf, hparts, List.flatMap_congr hcut, List.flatMap_singleton']

theorem chars_chars {name : List Char} (hname : ∀ c ∈ name, isAscii c = true) :
    chars (chars name) = chars name := by
  have hsmall : ∀ word ∈ (wordsOf name).map lowerWord, SmallWord word :=
    fun word hword => smallWord_of_mem hname hword
  have hlower : ((wordsOf name).map lowerWord).map lowerWord = (wordsOf name).map lowerWord := by
    rw [List.map_congr_left fun word hword => lowerWord_of_small (hsmall word hword).small]
    exact List.map_id' _
  have hwords : wordsOf (chars name) = (wordsOf name).map lowerWord := wordsOf_intercalate hsmall
  rw [chars, hwords, hlower]
  rfl

end SnakeCase

theorem StorageName.column_column {name : String}
    (hname : ∀ c ∈ name.toList, Unicode.isAscii c = true) :
    column (column name) = column name := by
  unfold column SnakeCase.ofName
  rw [String.toList_ofList, SnakeCase.chars_chars hname]

end ResourceSql
