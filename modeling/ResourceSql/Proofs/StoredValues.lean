import ResourceSql.Proofs.CanonicalValues
import ResourceSql.Proofs.ObjectChange
import ResourceSql.Sql.LiteralMeaning

/-!
# Values stored by merges and by assignments

A merge stores the same document for a value as an assignment of the object that it is a
member of, unless the value is a day and time.  The argument of a merge has days and times
in the form of literals, while documents have them in a form of their own.
-/

namespace ResourceSql

open Sql

/-! ## Documents of values -/

namespace Value

theorem writtenAs_toJson {v : Value} (hnames : v.NamesUnique) :
    v.toJson.WrittenAs v.toJson.text :=
  Json.writtenAs_text (wellFormed_toJson hnames)

theorem get?_toJsonBag {members : Bag Value} {name : String} {v : Value}
    (h : members.get? name = some v) : (toJsonBag members).get? name = some v.toJson := by
  obtain ⟨entries⟩ := members
  induction entries with
  | nil => cases h
  | cons entry rest ih =>
      rw [toJsonBag, toJsonEntries, Bag.get?_cons]
      rw [Bag.get?_cons] at h
      split_ifs at h ⊢ with hname
      · cases h
        rfl
      · exact ih h

end Value

/-! ## Arguments -/

theorem Argument.tokens_injective : Function.Injective Argument.tokens := by
  intro a b h
  cases a with
  | literal token =>
    cases b with
    | literal other =>
      rw [List.singleton_inj.mp h]
    | document text => exact absurd (congrArg List.length h) (by simp [tokens, parenthesized])
  | document text =>
    cases b with
    | literal other => exact absurd (congrArg List.length h) (by simp [tokens, parenthesized])
    | document other =>
      simp only [tokens, parenthesized, List.cons_append, List.nil_append, List.cons.injEq,
        Token.text.injEq, true_and] at h
      rw [h.1]

theorem Decimal.value_writtenOut (d : Decimal) : d.writtenOut.value = d.value := by
  unfold writtenOut
  split_ifs with hexponent
  · rw [value_of_nonneg hexponent, value_of_nonneg le_rfl]
    push_cast [Nat.pow_eq]
    rw [pow_zero, mul_one]
  · rfl

namespace Value

/-- What a merge stores is decided by the argument of the value. -/
theorem mergedAs_iff {v : Value} (hfinite : ∀ x, v = .float x → x.isFinite = true) (j : Json) :
    v.MergedAs j ↔ v.argument.Denotes j := by
  obtain ⟨text, htext⟩ := v.exists_sqlInDocument_iff.mpr hfinite
  have hread : lex? text.toList = some v.argument.tokens := reads_sqlInDocument htext
  constructor
  · rintro ⟨other, argument, hother, htokens, hdenotes⟩
    cases htext.symm.trans hother
    have hargument : v.argument = argument :=
      Argument.tokens_injective (Option.some.inj (hread.symm.trans htokens))
    rwa [hargument]
  · intro hdenotes
    exact ⟨text, v.argument, htext, hread, hdenotes⟩

theorem denotes_float {x : Binary64} (hfinite : x.isFinite = true) :
    (Value.float x).argument.Denotes (Value.float x).toJson := by
  rw [toJson, if_pos hfinite]
  exact Decimal.ofRatio_ratio hfinite (Decimal.value_writtenOut _)

/-- The form of a day and time in literals is not the one in documents. -/
theorem sqlText_ne_jsonText (t : DateTime) (zone : String) : t.sqlText ≠ t.jsonText ++ zone := by
  intro h
  have hchars := congrArg String.toList h
  simp only [DateTime.sqlText, DateTime.jsonText, String.toList_append, List.append_assoc,
    List.append_cancel_left_eq] at hchars
  exact absurd (List.cons.inj hchars).1 (by decide)

/-- The argument of a value denotes its document unless the value is a day and time. -/
theorem denotes_toJson_iff {v : Value} (hnames : v.NamesUnique)
    (hfinite : ∀ x, v = .float x → x.isFinite = true) :
    v.argument.Denotes v.toJson ↔ v.isMoment = false := by
  cases v with
  | null => exact iff_of_true ⟨rfl, rfl⟩ rfl
  | bool b => exact iff_of_true (writtenAs_toJson hnames) rfl
  | int n => exact iff_of_true (Decimal.denotes_int (WideInt.ofInt64 n)) rfl
  | uint n => exact iff_of_true (Decimal.denotes_int (WideInt.ofUInt64 n)) rfl
  | float x => exact iff_of_true (denotes_float (hfinite x rfl)) rfl
  | text s => exact iff_of_true rfl rfl
  | uuid u => exact iff_of_true rfl rfl
  | date d => exact iff_of_true rfl rfl
  | dateTime t =>
    refine iff_of_false ?_ (by simp [isMoment])
    intro h
    apply sqlText_ne_jsonText t ""
    rw [String.append_empty]
    exact (Json.string.inj h).symm
  | timestamp t =>
    refine iff_of_false ?_ (by simp [isMoment])
    intro h
    exact sqlText_ne_jsonText t "Z" (Json.string.inj h).symm
  | list items => exact iff_of_true (writtenAs_toJson hnames) rfl
  | object members => exact iff_of_true (writtenAs_toJson hnames) rfl

/-- An assignment stores the document of an object. -/
theorem assignedAs_toJson {members : Bag Value} (hnames : NamesUnique (.object members)) :
    (Value.object members).AssignedAs (.object (toJsonBag members)) := by
  have htext : (Value.object members).sql =
      .ok (Literal.quotedText (Value.object members).toJson.text) := rfl
  exact ⟨_, _, htext, reads_sql htext, writtenAs_toJson hnames⟩

/-- A merge stores the document of a value, which is the one that an assignment stores for
it inside an object, if and only if the value is not a day and time. -/
theorem mergedAs_toJson_iff {v : Value} (hnames : v.NamesUnique)
    (hfinite : ∀ x, v = .float x → x.isFinite = true) :
    (v.MergedAs v.toJson ↔ v.isMoment = false) ∧
      ∀ members name, NamesUnique (.object members) → members.get? name = some v →
        ∃ document : Bag Json, (Value.object members).AssignedAs (.object document) ∧
          document.get? name = some v.toJson := by
  constructor
  · rw [mergedAs_iff hfinite]
    exact denotes_toJson_iff hnames hfinite
  · intro members name hmembers hget
    exact ⟨toJsonBag members, assignedAs_toJson hmembers, get?_toJsonBag hget⟩

/-- A list with an object, a fraction and a text that needs escapes. -/
def escapedList : Value :=
  .list [.object ⟨[("\x22", .date ⟨2018, 3, 9⟩)]⟩, .float ⟨0x3ff8000000000000⟩, .text "\n\\\x27"]

theorem mergedAs_toJson_escapedList :
    escapedList.MergedAs escapedList.toJson ∧
      ∃ document : Bag Json,
        (Value.object ⟨[("a", escapedList)]⟩).AssignedAs (.object document) ∧
          document.get? "a" = some escapedList.toJson := by
  have hnames : escapedList.NamesUnique := by
    simp [escapedList, namesUnique_list_iff, namesUnique_object_iff, Bag.Unique, Bag.names,
      namesUnique_atom]
  have hmembers : NamesUnique (.object ⟨[("a", escapedList)]⟩) := by
    simp [namesUnique_object_iff, Bag.Unique, Bag.names, hnames]
  have hfinite : ∀ x, escapedList = .float x → x.isFinite = true := by
    rintro x ⟨⟩
  obtain ⟨hmerged, hassigned⟩ := mergedAs_toJson_iff hnames hfinite
  exact ⟨hmerged.mpr rfl, hassigned _ "a" hmembers rfl⟩

/-- A day and time with a fraction of a second. -/
def fractionalTime : DateTime := ⟨⟨2018, 3, 9⟩, ⟨7, 8, 9, 120000000⟩⟩

theorem not_mergedAs_toJson_fractionalTime :
    NamesUnique (.dateTime fractionalTime) ∧
      (Value.dateTime fractionalTime).MergedAs (.string "2018-03-09 07:08:09.120") ∧
      (Value.dateTime fractionalTime).toJson = .string "2018-03-09T07:08:09.120" ∧
      ¬(Value.dateTime fractionalTime).MergedAs (Value.dateTime fractionalTime).toJson := by
  have hnames : NamesUnique (.dateTime fractionalTime) := by
    simp [namesUnique_atom]
  have hfinite : ∀ x, Value.dateTime fractionalTime = .float x → x.isFinite = true := by
    rintro x ⟨⟩
  have hsql : fractionalTime.sqlText = "2018-03-09 07:08:09.120" := by decide +kernel
  have hjson : fractionalTime.jsonText = "2018-03-09T07:08:09.120" := by decide +kernel
  refine ⟨hnames, ?_, congrArg Json.string hjson, ?_⟩
  · rw [mergedAs_iff hfinite]
    exact congrArg Json.string hsql.symm
  · rw [mergedAs_iff hfinite, denotes_toJson_iff hnames hfinite]
    decide

end Value

end ResourceSql
