import ResourceSql.Json.Reading
import ResourceSql.Proofs.Bag
import ResourceSql.Proofs.Json.Numbers
import ResourceSql.Proofs.Json.Strings

/-!
# JSON text read back

The text of a well-formed document is JSON text that denotes the document.  The reader's
bound is no obstacle: every call consumes a character, so the length of the text is
enough.
-/

namespace ResourceSql

open Written

namespace Json

/-! ## Well-formed parts -/

/-- Induction over the parts of a document. -/
@[elab_as_elim]
theorem partsInduction {motive : Json → Prop}
    (object : ∀ members : Bag Json, (∀ entry ∈ members.entries, motive entry.2) →
      motive (.object members))
    (array : ∀ items : List Json, (∀ j ∈ items, motive j) → motive (.array items))
    (atom : ∀ j : Json, (∀ members, j ≠ .object members) → (∀ items, j ≠ .array items) →
      motive j) :
    ∀ j, motive j
  | .object ⟨entries⟩ =>
    object ⟨entries⟩ fun entry hentry =>
      have : sizeOf entry < sizeOf entries := List.sizeOf_lt_of_mem hentry
      partsInduction object array atom entry.2
  | .array items =>
    array items fun j hj =>
      have : sizeOf j < sizeOf items := List.sizeOf_lt_of_mem hj
      partsInduction object array atom j
  | .null => atom _ nofun nofun
  | .bool _ => atom _ nofun nofun
  | .int _ => atom _ nofun nofun
  | .float _ => atom _ nofun nofun
  | .string _ => atom _ nofun nofun
termination_by j => sizeOf j
decreasing_by
  · obtain ⟨name, j⟩ := entry
    simp only [Prod.mk.sizeOf_spec, Json.object.sizeOf_spec, Bag.mk.sizeOf_spec] at *
    omega
  · simp only [Json.array.sizeOf_spec]
    omega

theorem wellFormedItems_iff {items : List Json} :
    WellFormedItems items ↔ ∀ j ∈ items, j.WellFormed := by
  induction items with
  | nil => simp [WellFormedItems]
  | cons j rest ih => rw [WellFormedItems, ih, List.forall_mem_cons]

theorem wellFormedBag_iff {members : Bag Json} :
    WellFormedBag members ↔ ∀ entry ∈ members.entries, entry.2.WellFormed := by
  obtain ⟨entries⟩ := members
  rw [WellFormedBag]
  induction entries with
  | nil => simp [WellFormedEntries]
  | cons entry rest ih => rw [WellFormedEntries, ih, List.forall_mem_cons]

end Json

namespace Written

/-! ## Where values start and end -/

/-- What can stand after a value within a text. -/
def EndsValue (rest : List Char) : Prop :=
  ∀ c, rest.head? = some c → [',', ']', '\x7d'].contains c = true

/-- A text that starts like a value, and not with a blank or the end of a list. -/
def StartsValue (cs : List Char) : Prop :=
  ∃ c rest, cs = c :: rest ∧ isBlank c = false ∧ c ≠ ']' ∧ c ≠ '\x7d'

theorem EndsValue.endsNumeral {rest : List Char} (h : EndsValue rest) : EndsNumeral rest := by
  intro c hc
  have hmem := h c hc
  simp only [List.contains_cons, List.contains_nil, Bool.or_false, Bool.or_eq_true,
    beq_iff_eq] at hmem
  rcases hmem with rfl | rfl | rfl <;> decide

theorem StartsValue.append {cs : List Char} (h : StartsValue cs) (rest : List Char) :
    StartsValue (cs ++ rest) := by
  obtain ⟨c, cs, rfl, hblank, hbracket, hbrace⟩ := h
  exact ⟨c, cs ++ rest, rfl, hblank, hbracket, hbrace⟩

theorem StartsValue.skipBlank_eq {cs : List Char} (h : StartsValue cs) : skipBlank cs = cs := by
  obtain ⟨c, rest, rfl, hblank, -, -⟩ := h
  simp [skipBlank, hblank]

theorem skipBlank_cons {c : Char} (hblank : isBlank c = false) (rest : List Char) :
    skipBlank (c :: rest) = c :: rest := by
  simp [skipBlank, hblank]

theorem startsValue_of_isDigit {c : Char} (hc : c.isDigit = true) (rest : List Char) :
    StartsValue (c :: rest) := by
  refine ⟨c, rest, rfl, ?_, ?_, ?_⟩
  · by_contra hblank
    simp only [isBlank, Bool.not_eq_false, Bool.or_eq_true, beq_iff_eq] at hblank
    rcases hblank with ((rfl | rfl) | rfl) | rfl <;> exact absurd hc (by decide)
  · rintro rfl
    exact absurd hc (by decide)
  · rintro rfl
    exact absurd hc (by decide)

theorem startsValue_chars {n : Numeral} (hn : n.InOrder) : StartsValue n.chars := by
  obtain ⟨c, whole, hc⟩ := List.exists_cons_of_ne_nil hn.whole.1
  have hdigit : c.isDigit = true := hn.whole.2 c (by simp [hc])
  unfold Numeral.chars
  rw [hc]
  cases n.negative with
  | true => exact ⟨'-', _, rfl, by decide, by decide, by decide⟩
  | false => exact startsValue_of_isDigit hdigit _

/-! ## Values of each kind -/

theorem value?_null (bound : Nat) (rest : List Char) :
    value? (bound + 1) ("null".toList ++ rest) = some (.null, rest) := rfl

theorem value?_bool (b : Bool) (bound : Nat) (rest : List Char) :
    value? (bound + 1) ((if b then "true" else "false").toList ++ rest) =
      some (.bool b, rest) := by
  cases b <;> rfl

theorem quoted_append (s : String) (rest : List Char) :
    Json.quoted s ++ rest = '\x22' :: (s.toList.flatMap Json.escaped ++ '\x22' :: rest) := by
  simp [Json.quoted]

theorem value?_quoted (s : String) (bound : Nat) (rest : List Char) :
    value? (bound + 1) (Json.quoted s ++ rest) = some (.string s, rest) := by
  have hbody := stringBody?_flatMap s.toList rest
  have hblank : isBlank '\x22' = false := by decide
  rw [quoted_append, value?, skipBlank_cons hblank]
  simp only [hbody, Option.map_some, String.ofList_toList]

/-- What starts with a minus sign or a digit is read as a numeral. -/
theorem value?_numeral (bound : Nat) {c : Char} (hc : c.isDigit = true ∨ c = '-')
    (cs : List Char) :
    value? (bound + 1) (c :: cs) = (numeral? (c :: cs)).map fun (n, after) => (.number n, after) := by
  have hstart : skipBlank (c :: cs) = c :: cs := by
    rcases hc with hdigit | rfl
    · exact (startsValue_of_isDigit hdigit cs).skipBlank_eq
    · exact skipBlank_cons (by decide) cs
  have hother : ∀ d ∈ ['n', 't', 'f', '\x22', '[', '\x7b'], c ≠ d := by
    rintro d hd rfl
    simp only [List.mem_cons, List.not_mem_nil, or_false] at hd
    rcases hd with rfl | rfl | rfl | rfl | rfl | rfl <;> rcases hc with hc | hc <;>
      exact absurd hc (by decide)
  rw [value?, hstart]
  split
  case h_7 => rfl
  all_goals
    rename_i heq
    cases heq
    exact absurd rfl (hother _ (by simp))

theorem value?_chars {n : Numeral} (hn : n.InOrder) (bound : Nat) {rest : List Char}
    (hrest : EndsNumeral rest) :
    value? (bound + 1) (n.chars ++ rest) = some (.number n, rest) := by
  have hnumeral := numeral?_chars hn hrest
  obtain ⟨c, whole, hc⟩ := List.exists_cons_of_ne_nil hn.whole.1
  have hdigit : c.isDigit = true := hn.whole.2 c (by simp [hc])
  obtain ⟨first, cs, hcs, hfirst⟩ :
      ∃ first cs, n.chars = first :: cs ∧ (first.isDigit = true ∨ first = '-') := by
    unfold Numeral.chars
    rw [hc]
    cases n.negative with
    | true => exact ⟨'-', _, rfl, Or.inr rfl⟩
    | false => exact ⟨c, _, rfl, Or.inl hdigit⟩
  rw [hcs, List.cons_append] at hnumeral ⊢
  rw [value?_numeral bound hfirst, hnumeral]
  rfl

theorem value?_array_nil (bound : Nat) (rest : List Char) :
    value? (bound + 1) ('[' :: ']' :: rest) = some (.array [], rest) := rfl

theorem value?_array (bound : Nat) {cs : List Char} (hcs : StartsValue cs) :
    value? (bound + 1) ('[' :: cs) =
      (items? bound cs).map fun (items, after) => (.array items, after) := by
  have hblank : isBlank '[' = false := by decide
  rw [value?]
  simp only [skipBlank_cons hblank, hcs.skipBlank_eq]
  obtain ⟨c, rest, rfl, -, hbracket, -⟩ := hcs
  split
  · rename_i heq
    cases heq
    exact absurd rfl hbracket
  · rfl

theorem value?_object_nil (bound : Nat) (rest : List Char) :
    value? (bound + 1) ('\x7b' :: '\x7d' :: rest) = some (.object [], rest) := rfl

theorem value?_object (bound : Nat) {cs : List Char} (hcs : StartsValue cs) :
    value? (bound + 1) ('\x7b' :: cs) =
      (members? bound cs).map fun (members, after) => (.object members, after) := by
  have hblank : isBlank '\x7b' = false := by decide
  rw [value?]
  simp only [skipBlank_cons hblank, hcs.skipBlank_eq]
  obtain ⟨c, rest, rfl, -, -, hbrace⟩ := hcs
  split
  · rename_i heq
    cases heq
    exact absurd rfl hbrace
  · rfl

/-! ## Items and members -/

theorem items?_last {bound : Nat} {cs after : List Char} {w : Written}
    (h : value? bound cs = some (w, ']' :: after)) :
    items? (bound + 1) cs = some ([w], after) := by
  have hblank : isBlank ']' = false := by decide
  rw [items?, h, Option.bind_eq_bind, Option.bind_some]
  simp only [skipBlank_cons hblank]

theorem items?_cons {bound : Nat} {cs next : List Char} {w : Written}
    (h : value? bound cs = some (w, ',' :: next)) :
    items? (bound + 1) cs = (items? bound next).map fun (ws, after) => (w :: ws, after) := by
  have hblank : isBlank ',' = false := by decide
  rw [items?, h, Option.bind_eq_bind, Option.bind_some]
  simp only [skipBlank_cons hblank]
  cases items? bound next <;> rfl

theorem startsValue_quoted (name : String) : StartsValue (Json.quoted name) :=
  ⟨'\x22', _, rfl, by decide, by decide, by decide⟩

theorem members?_last {bound : Nat} {name : String} {cs after : List Char} {w : Written}
    (h : value? bound cs = some (w, '\x7d' :: after)) :
    members? (bound + 1) (Json.quoted name ++ ':' :: cs) = some ([(name, w)], after) := by
  have hbody := stringBody?_flatMap name.toList (':' :: cs)
  have hquote : isBlank '\x22' = false := by decide
  have hcolon : isBlank ':' = false := by decide
  have hbrace : isBlank '\x7d' = false := by decide
  rw [quoted_append, members?]
  simp only [skipBlank_cons hquote, hbody, Option.bind_eq_bind, Option.bind_some,
    skipBlank_cons hcolon, h, skipBlank_cons hbrace, String.ofList_toList]

theorem members?_cons {bound : Nat} {name : String} {cs next : List Char} {w : Written}
    (h : value? bound cs = some (w, ',' :: next)) :
    members? (bound + 1) (Json.quoted name ++ ':' :: cs) =
      (members? bound next).map fun (ws, after) => ((name, w) :: ws, after) := by
  have hbody := stringBody?_flatMap name.toList (':' :: cs)
  have hquote : isBlank '\x22' = false := by decide
  have hcolon : isBlank ':' = false := by decide
  have hcomma : isBlank ',' = false := by decide
  rw [quoted_append, members?]
  simp only [skipBlank_cons hquote, hbody, Option.bind_eq_bind, Option.bind_some,
    skipBlank_cons hcolon, h, skipBlank_cons hcomma, String.ofList_toList]
  cases members? bound next <;> rfl

theorem startsValue_json (j : Json) : StartsValue j.chars := by
  cases j with
  | null => exact ⟨'n', _, rfl, by decide, by decide, by decide⟩
  | bool b =>
    cases b with
    | true => exact ⟨'t', _, rfl, by decide, by decide, by decide⟩
    | false => exact ⟨'f', _, rfl, by decide, by decide, by decide⟩
  | int k =>
    obtain ⟨n, hn, hchars, -⟩ := Json.exists_numeral_int k
    rw [Json.chars, hchars]
    exact startsValue_chars hn
  | float x =>
    rw [Json.chars]
    by_cases hfinite : x.isFinite = true
    · obtain ⟨n, hn, hchars, -⟩ := Json.exists_numeral_float hfinite
      rw [hchars]
      exact startsValue_chars hn
    · rw [Json.floatText, if_neg hfinite]
      exact ⟨'n', _, rfl, by decide, by decide, by decide⟩
  | string s => exact startsValue_quoted s
  | array items => exact ⟨'[', _, rfl, by decide, by decide, by decide⟩
  | object members => exact ⟨'\x7b', _, rfl, by decide, by decide, by decide⟩

/-! ## Whole documents -/

/-- The text of a document is read back, as long as the reader's bound exceeds its
length. -/
def ReadBack (j : Json) : Prop :=
  ∀ bound rest, j.chars.length ≤ bound → EndsValue rest →
    ∃ w, value? (bound + 1) (j.chars ++ rest) = some (w, rest) ∧ w.Denotes j

theorem endsValue_cons {c : Char} (hc : [',', ']', '\x7d'].contains c = true)
    (rest : List Char) : EndsValue (c :: rest) := by
  rintro d ⟨⟩
  exact hc

theorem charsOfItems_cons_cons (j next : Json) (rest : List Json) :
    Json.charsOfItems (j :: next :: rest) =
      j.chars ++ ',' :: Json.charsOfItems (next :: rest) := by
  simp [Json.charsOfItems, Json.charsAfterItem]

theorem items?_charsOfItems {items : List Json} (hitems : items ≠ [])
    (hread : ∀ j ∈ items, ReadBack j) {bound : Nat}
    (hbound : (Json.charsOfItems items).length ≤ bound) (after : List Char) :
    ∃ ws, items? (bound + 2) (Json.charsOfItems items ++ ']' :: after) = some (ws, after) ∧
      ItemsDenote ws items := by
  induction items generalizing bound with
  | nil => exact absurd rfl hitems
  | cons j rest ih =>
      have hj := hread j List.mem_cons_self
      cases rest with
      | nil =>
        rw [Json.charsOfItems, Json.charsAfterItem, List.append_nil] at hbound ⊢
        obtain ⟨w, hw, hdenotes⟩ := hj bound (']' :: after) hbound (endsValue_cons rfl after)
        exact ⟨[w], items?_last hw, hdenotes, trivial⟩
      | cons next rest =>
        rw [charsOfItems_cons_cons] at hbound ⊢
        rw [List.length_append, List.length_cons] at hbound
        obtain ⟨bound, rfl⟩ : ∃ smaller, bound = smaller + 1 := ⟨bound - 1, by omega⟩
        have hfirst : j.chars.length ≤ bound + 1 := by omega
        have hmore : (Json.charsOfItems (next :: rest)).length ≤ bound := by omega
        obtain ⟨w, hw, hdenotes⟩ := hj (bound + 1)
          (',' :: (Json.charsOfItems (next :: rest) ++ ']' :: after)) hfirst
          (endsValue_cons rfl _)
        obtain ⟨ws, hws, hrest⟩ :=
          ih (by simp) (fun k hk => hread k (List.mem_cons_of_mem _ hk)) hmore
        refine ⟨w :: ws, ?_, hdenotes, hrest⟩
        rw [List.append_assoc, List.cons_append, items?_cons hw, hws]
        rfl

theorem charsOfMembers_singleton (name : String) (j : Json) :
    Json.charsOfMembers [(name, j)] = Json.quoted name ++ ':' :: j.chars := by
  simp [Json.charsOfMembers, Json.charsAfterMember]

theorem charsOfMembers_cons_cons (name : String) (j : Json) (next : String × Json)
    (rest : List (String × Json)) :
    Json.charsOfMembers ((name, j) :: next :: rest) =
      Json.quoted name ++ ':' :: (j.chars ++ ',' :: Json.charsOfMembers (next :: rest)) := by
  simp [Json.charsOfMembers, Json.charsAfterMember]

theorem members?_charsOfMembers {entries : List (String × Json)} (hentries : entries ≠ [])
    (hread : ∀ entry ∈ entries, ReadBack entry.2) {bound : Nat}
    (hbound : (Json.charsOfMembers entries).length ≤ bound) (after : List Char) :
    ∃ ws, members? (bound + 2) (Json.charsOfMembers entries ++ '\x7d' :: after) =
        some (ws, after) ∧ MembersDenote ws entries := by
  induction entries generalizing bound with
  | nil => exact absurd rfl hentries
  | cons entry rest ih =>
      obtain ⟨name, j⟩ := entry
      have hj : ReadBack j := hread (name, j) List.mem_cons_self
      cases rest with
      | nil =>
        rw [charsOfMembers_singleton] at hbound ⊢
        rw [List.length_append, List.length_cons] at hbound
        have hfirst : j.chars.length ≤ bound := by omega
        obtain ⟨w, hw, hdenotes⟩ := hj bound ('\x7d' :: after) hfirst (endsValue_cons rfl after)
        refine ⟨[(name, w)], ?_, rfl, hdenotes, trivial⟩
        rw [List.append_assoc, List.cons_append]
        exact members?_last hw
      | cons next rest =>
        rw [charsOfMembers_cons_cons] at hbound ⊢
        simp only [List.length_append, List.length_cons] at hbound
        obtain ⟨bound, rfl⟩ : ∃ smaller, bound = smaller + 1 := ⟨bound - 1, by omega⟩
        have hfirst : j.chars.length ≤ bound + 1 := by omega
        have hmore : (Json.charsOfMembers (next :: rest)).length ≤ bound := by omega
        obtain ⟨w, hw, hdenotes⟩ := hj (bound + 1)
          (',' :: (Json.charsOfMembers (next :: rest) ++ '\x7d' :: after)) hfirst
          (endsValue_cons rfl _)
        obtain ⟨ws, hws, hrest⟩ :=
          ih (by simp) (fun other hother => hread other (List.mem_cons_of_mem _ hother)) hmore
        refine ⟨(name, w) :: ws, ?_, rfl, hdenotes, hrest⟩
        rw [List.append_assoc, List.cons_append, List.append_assoc, List.cons_append,
          members?_cons hw, hws]
        rfl

theorem readBack_array {items : List Json} (hread : ∀ j ∈ items, ReadBack j) :
    ReadBack (.array items) := by
  intro bound rest hbound hrest
  rw [Json.chars, List.append_assoc, List.cons_append, List.singleton_append]
  cases items with
  | nil => exact ⟨.array [], value?_array_nil bound rest, trivial⟩
  | cons j others =>
    rw [Json.chars, List.length_append, List.length_cons, List.length_singleton] at hbound
    obtain ⟨bound, rfl⟩ : ∃ smaller, bound = smaller + 2 := ⟨bound - 2, by omega⟩
    have hitems : (Json.charsOfItems (j :: others)).length ≤ bound := by omega
    have hstart : StartsValue (Json.charsOfItems (j :: others) ++ ']' :: rest) :=
      ((startsValue_json j).append _).append _
    obtain ⟨ws, hws, hdenotes⟩ := items?_charsOfItems (by simp) hread hitems rest
    refine ⟨.array ws, ?_, hdenotes⟩
    rw [value?_array (bound + 2) hstart, hws]
    rfl

theorem readBack_object {entries : List (String × Json)}
    (hread : ∀ entry ∈ entries, ReadBack entry.2) (hunique : (⟨entries⟩ : Bag Json).Unique) :
    ReadBack (.object ⟨entries⟩) := by
  intro bound rest hbound hrest
  rw [Json.chars, Json.charsOfBag, List.append_assoc, List.cons_append, List.singleton_append]
  cases entries with
  | nil => exact ⟨.object [], value?_object_nil bound rest, [], trivial, rfl⟩
  | cons entry others =>
    rw [Json.chars, Json.charsOfBag, List.length_append, List.length_cons,
      List.length_singleton] at hbound
    obtain ⟨bound, rfl⟩ : ∃ smaller, bound = smaller + 2 := ⟨bound - 2, by omega⟩
    have hmembers : (Json.charsOfMembers (entry :: others)).length ≤ bound := by omega
    have hstart : StartsValue (Json.charsOfMembers (entry :: others) ++ '\x7d' :: rest) := by
      obtain ⟨name, j⟩ := entry
      rw [Json.charsOfMembers]
      exact (((startsValue_quoted name).append _).append _).append _
    obtain ⟨ws, hws, hdenotes⟩ := members?_charsOfMembers (by simp) hread hmembers rest
    refine ⟨.object ws, ?_, entry :: others, hdenotes, (Bag.ofList_entries hunique).symm⟩
    rw [value?_object (bound + 2) hstart, hws]
    rfl

theorem readBack_of_numeral {j : Json} {n : Numeral} (hn : n.InOrder) (hchars : j.chars = n.chars)
    (hdenotes : n.decimal.Denotes n.negative j) : ReadBack j := by
  intro bound rest hbound hrest
  refine ⟨.number n, ?_, ?_⟩
  · rw [hchars]
    exact value?_chars hn bound hrest.endsNumeral
  · cases j <;> exact hdenotes

theorem readBack {j : Json} (hj : j.WellFormed) : ReadBack j := by
  induction j using Json.partsInduction with
  | object members ih =>
    obtain ⟨hunique, hmembers⟩ := hj
    exact readBack_object
      (fun entry hentry => ih entry hentry (Json.wellFormedBag_iff.mp hmembers entry hentry))
      hunique
  | array items ih =>
    exact readBack_array fun j hmem => ih j hmem (Json.wellFormedItems_iff.mp hj j hmem)
  | atom j hobject harray =>
    cases j with
    | object members => exact absurd rfl (hobject members)
    | array items => exact absurd rfl (harray items)
    | int k =>
      obtain ⟨n, hn, hchars, hdenotes⟩ := Json.exists_numeral_int k
      exact readBack_of_numeral hn hchars hdenotes
    | float x =>
      obtain ⟨n, hn, hchars, hdenotes⟩ := Json.exists_numeral_float hj
      exact readBack_of_numeral hn hchars hdenotes
    | null =>
      intro bound rest _ _
      exact ⟨.null, value?_null bound rest, trivial⟩
    | bool b =>
      intro bound rest _ _
      exact ⟨.bool b, value?_bool b bound rest, rfl⟩
    | string s =>
      intro bound rest _ _
      exact ⟨.string s, value?_quoted s bound rest, rfl⟩

end Written

/-- The text of a well-formed document is JSON that denotes the document. -/
theorem Json.writtenAs_text {j : Json} (hj : j.WellFormed) : j.WrittenAs j.text := by
  obtain ⟨w, hw, hdenotes⟩ := readBack hj j.chars.length [] le_rfl (by rintro c ⟨⟩)
  refine ⟨w, ?_, hdenotes⟩
  rw [List.append_nil] at hw
  simp [Written.parse?, text, hw, skipBlank]

end ResourceSql
