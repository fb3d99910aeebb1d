import Mathlib.Tactic.Common
import ResourceSql.Proofs.Decimal.Notation
import ResourceSql.Proofs.Lexing.Basic
import ResourceSql.Sql.Form

/-!
# Identifiers, texts and numerals as tokens

What is written for a name, a text or a number is read back as exactly that: a name
as its parts between the dots, a text as one token with every character in place,
and a number as one numeral with its digits.  Texts and numerals are their token from
the first to the last character, so they can be scanned whatever comes after them.
-/

namespace ResourceSql.Sql

open Mode

/-! ## Quoted texts -/

theorem read?_escaped (s : List Char) (c : Char) :
    (Mode.text s).read? (Literal.escaped c) = some ([], .text (s ++ [c])) := by
  unfold Literal.escaped
  split_ifs with h0 hb ht hn hr hZ hquoted
  · subst h0; rfl
  · subst hb; rfl
  · subst ht; rfl
  · subst hn; rfl
  · subst hr; rfl
  · subst hZ; rfl
  · rcases hquoted with rfl | rfl | rfl <;> rfl
  · simp only [not_or] at hquoted
    rw [read?_cons_of_step (.text (s ++ [c])) (by simp [step?, hquoted.2])]
    rfl

theorem read?_flatMap_escaped (s cs : List Char) :
    (Mode.text s).read? (cs.flatMap Literal.escaped) = some ([], .text (s ++ cs)) := by
  induction cs generalizing s with
  | nil => simp
  | cons c cs ih =>
      rw [List.flatMap_cons, read?_append_of_eq (read?_escaped s c) (ih (s ++ [c]))]
      simp

/-- A quoted text is one token, with every character in place. -/
theorem spells_quotedText (s : String) : Spells (Literal.quotedText s).toList (.text s) := by
  have hbody := read?_flatMap_escaped [] s.toList
  have hclose : (Mode.text s.toList).read? ['\x27'] = some ([], .textEnd s.toList) := rfl
  have hread := read?_append_of_eq hbody hclose
  refine ⟨.textEnd s.toList, ?_, by simp [token?, finish?]⟩
  rw [Literal.quotedText, String.toList_ofList, List.cons_append,
    read?_cons_of_step (.text []) rfl]
  simpa using hread

theorem reads_quotedText (s : String) : Reads (Literal.quotedText s) [.text s] :=
  (spells_quotedText s).reads

/-! ## Identifiers -/

theorem read?_identifierChar {c : Char} (hc : c ≠ '.') (name : List Char) :
    (Mode.identifier name).read? (identifierChar c) = some ([], .identifier (name ++ [c])) := by
  unfold identifierChar
  split_ifs with hbacktick
  · subst hbacktick
    rfl
  · rw [read?_cons_of_step (.identifier (name ++ [c]))
      (by rw [backtick] at hbacktick; simp [step?, hbacktick])]
    rfl

/-- The identifiers of a list of parts, with dots between them. -/
def dotted (parts : List (List Char)) : List Token :=
  (parts.map fun part => .identifier (String.ofList part)).intersperse (.symbol '.')

theorem dotted_cons_cons (first second : List Char) (rest : List (List Char)) :
    dotted (first :: second :: rest) =
      [.identifier (String.ofList first), .symbol '.'] ++ dotted (second :: rest) := by
  simp [dotted]

/-- The rest of a name within an identifier of which a part has been read. -/
theorem read?_flatMap_identifierChar (name cs : List Char) :
    ∃ done last, (Mode.identifier name).read? (cs.flatMap identifierChar ++ [backtick]) =
        some (done, .identifierEnd last) ∧
      done ++ [.identifier (String.ofList last)] =
        dotted ((cs.splitOn '.').modifyHead (name ++ ·)) := by
  induction cs generalizing name with
  | nil => exact ⟨[], name, rfl, by simp [dotted]⟩
  | cons c cs ih =>
      rw [List.flatMap_cons, List.append_assoc, List.splitOn_eq_splitOnP,
        List.splitOnP_cons_eq_if_modifyHead, ← List.splitOn_eq_splitOnP]
      by_cases hc : c = '.'
      · subst hc
        obtain ⟨done, last, hread, hdone⟩ := ih []
        have hdot : (Mode.identifier name).read? (identifierChar '.') =
            some ([.identifier (String.ofList name), .symbol '.'], .identifier []) := rfl
        refine ⟨_, last, read?_append_of_eq hdot hread, ?_⟩
        obtain ⟨part, parts, hparts⟩ :=
          List.exists_cons_of_ne_nil (List.splitOn_ne_nil '.' cs)
        rw [List.append_assoc, hdone, hparts]
        simp [dotted_cons_cons]
      · obtain ⟨done, last, hread, hdone⟩ := ih (name ++ [c])
        refine ⟨done, last, ?_, ?_⟩
        · simpa using read?_append_of_eq (read?_identifierChar hc name) hread
        · rw [hdone]
          cases cs.splitOn '.' <;> simp [hc]

/-- An identifier is read as the parts of its name between the dots. -/
theorem reads_identifier (name : String) : Reads (identifier name) (qualified name) := by
  obtain ⟨done, last, hread, hdone⟩ := read?_flatMap_identifierChar [] name.toList
  refine lex?_eq_some_iff.mpr ⟨done, .identifierEnd last, [.identifier (String.ofList last)],
    ?_, rfl, ?_⟩
  · rw [identifier, String.toList_ofList, List.cons_append,
      read?_cons_of_step (.identifier []) rfl]
    exact hread
  · rw [hdone, qualified, dotted]
    congr 2
    cases name.toList.splitOn '.' <;> rfl

theorem qualified_of_not_mem {name : String} (hdot : '.' ∉ name.toList) :
    qualified name = [.identifier name] := by
  have hsplit : name.toList.splitOn '.' = [name.toList] := by
    rw [List.splitOn_eq_splitOnP]
    apply List.splitOnP_eq_singleton
    intro c hc
    rw [beq_eq_false_iff_ne]
    intro h
    exact hdot (h ▸ hc)
  simp [qualified, hsplit]

/-! ## Numerals -/

theorem read?_whole (negative : Bool) (front digits : List Char)
    (hdigits : ∀ c ∈ digits, c.isDigit = true) :
    (Mode.whole negative front).read? digits = some ([], .whole negative (front ++ digits)) := by
  induction digits generalizing front with
  | nil => simp
  | cons c digits ih =>
      have hc := hdigits c (by simp)
      rw [read?_cons_of_step (.whole negative (front ++ [c])) (by simp [step?, hc]),
        ih _ fun d hd => hdigits d (by simp [hd])]
      simp

theorem read?_fraction (negative : Bool) (whole front digits : List Char)
    (hdigits : ∀ c ∈ digits, c.isDigit = true) :
    (Mode.fraction negative whole front).read? digits =
      some ([], .fraction negative whole (front ++ digits)) := by
  induction digits generalizing front with
  | nil => simp
  | cons c digits ih =>
      have hc := hdigits c (by simp)
      rw [read?_cons_of_step (.fraction negative whole (front ++ [c]))
          (by simp [step?, hc]),
        ih _ fun d hd => hdigits d (by simp [hd])]
      simp

theorem start?_of_isDigit {c : Char} (hc : c.isDigit = true) :
    start? c = some ([], .whole false [c]) := by
  have hnot : ∀ d : Char, d.isDigit = false → c ≠ d := by
    intro d hd hcd
    rw [hcd, hd] at hc
    exact Bool.false_ne_true hc
  have hblank : isBlank c = false := by
    simp [isBlank, hnot ' ' (by decide), hnot '\t' (by decide), hnot '\n' (by decide),
      hnot '\r' (by decide)]
  have hsymbol : isSymbol c = false := by
    simp [isSymbol, hnot '(' (by decide), hnot ')' (by decide), hnot ',' (by decide),
      hnot ';' (by decide), hnot '=' (by decide), hnot '*' (by decide), hnot '.' (by decide)]
  simp [start?, hblank, hsymbol, hc, hnot '\x60' (by decide), hnot '\x27' (by decide),
    hnot '-' (by decide)]

/-- The sign of a number before its digits. -/
def signed (negative : Bool) (digits : List Char) : List Char :=
  if negative then '-' :: digits else digits

theorem read?_signed (negative : Bool) {digits : List Char} (hne : digits ≠ [])
    (hdigits : ∀ c ∈ digits, c.isDigit = true) :
    Mode.between.read? (signed negative digits) = some ([], .whole negative digits) := by
  obtain ⟨c, rest, rfl⟩ := List.exists_cons_of_ne_nil hne
  have hc := hdigits c (by simp)
  have hrest := read?_whole negative [c] rest fun d hd => hdigits d (by simp [hd])
  cases negative with
  | false =>
      have hstep : Mode.between.step? c = some ([], .whole false [c]) := start?_of_isDigit hc
      exact (read?_cons_of_step _ hstep rest).trans hrest
  | true =>
      rw [signed, if_pos rfl, read?_cons_of_step .sign rfl,
        read?_cons_of_step (.whole true [c]) (by simp [step?, hc])]
      exact hrest

theorem spells_signed (negative : Bool) {digits : List Char} (hne : digits ≠ [])
    (hdigits : ∀ c ∈ digits, c.isDigit = true) :
    Spells (signed negative digits) (.number negative ⟨Digits.readDecimal 0 digits, 0⟩) :=
  ⟨_, read?_signed negative hne hdigits, rfl⟩

theorem spells_signed_point (negative : Bool) {digits places : List Char} (hne : digits ≠ [])
    (hplaces : places ≠ []) (hdigits : ∀ c ∈ digits ++ places, c.isDigit = true) :
    Spells (signed negative (digits ++ '.' :: places))
      (.number negative ⟨Digits.readDecimal 0 (digits ++ places), -places.length⟩) := by
  have hwhole := read?_signed negative hne fun c hc => hdigits c (by simp [hc])
  have hfraction := read?_fraction negative digits [] places fun c hc => hdigits c (by simp [hc])
  have hpoint : (Mode.whole negative digits).read? ('.' :: places) =
      some ([], .fraction negative digits places) := by
    rw [read?_cons_of_step (.fraction negative digits []) (by simp [step?])]
    exact hfraction
  have hread := read?_append_of_eq hwhole hpoint
  refine ⟨.fraction negative digits places, ?_, by simp [token?, finish?, hplaces]⟩
  cases negative <;> simpa [signed] using hread

theorem spells_integer (n : Int) :
    Spells (Digits.signed n).toList (.number (n < 0) ⟨n.natAbs, 0⟩) := by
  have h := spells_signed (decide (n < 0)) (Digits.ofNat_ne_nil 10 n.natAbs)
    fun c => Digits.isDigit_of_mem_ofNat n.natAbs
  rw [Digits.readDecimal_ofNat] at h
  by_cases hn : n < 0 <;> simpa [Digits.signed, Digits.decimal, signed, hn] using h

theorem reads_decimal (n : Nat) : Reads (Digits.decimal n) [.number false ⟨n, 0⟩] := by
  have hn : ¬((n : Int) < 0) := by omega
  have h := (spells_integer n).reads
  simpa [Digits.signed, hn] using h

/-- A finite double is the numeral of the shortest decimal that was written for it. -/
theorem spells_float (x : Binary64) :
    Spells (Literal.numbers.finite x).toList
      (.number x.isNegative (Decimal.shortest .up x).writtenOut) := by
  let d := Decimal.shortest .up x
  have htext : (Literal.numbers.finite x).toList =
      signed x.isNegative (Decimal.positional false d) := by
    simp [Literal.numbers, Decimal.Layout.finite, Decimal.Layout.write, signed, d]
  have hdigits : ∀ c ∈ Digits.ofNat 10 d.coefficient, c.isDigit = true :=
    fun c => Digits.isDigit_of_mem_ofNat d.coefficient
  rw [htext]
  by_cases hd : 0 ≤ d.exponent
  · rw [Decimal.positional_of_nonneg hd]
    have hall : ∀ c ∈ Digits.ofNat 10 d.coefficient ++ List.replicate d.exponent.toNat '0',
        c.isDigit = true := by
      intro c hc
      rw [List.mem_append, List.mem_replicate] at hc
      rcases hc with hc | ⟨-, rfl⟩
      · exact hdigits c hc
      · decide
    have h := spells_signed x.isNegative (by simp [Digits.ofNat_ne_nil]) hall
    rw [Digits.readDecimal_append_zeros, Digits.readDecimal_ofNat] at h
    simpa [Decimal.writtenOut, hd, d] using h
  · obtain ⟨whole, places, hpos, hpadded, hlen, hne⟩ :=
      Decimal.positional_of_neg (Int.not_le.mp hd) false
    have hplaces : places ≠ [] := by
      rw [← List.length_pos_iff]
      omega
    have hall : ∀ c ∈ whole ++ places, c.isDigit = true := by
      intro c hc
      rw [hpadded] at hc
      exact Digits.isDigit_of_mem_padLeft hdigits hc
    have h := spells_signed_point x.isNegative hne hplaces hall
    have hexponent : -((-d.exponent).toNat : Int) = d.exponent := by omega
    rw [hpadded, Digits.readDecimal_padLeft, Digits.readDecimal_ofNat, hlen, hexponent] at h
    rw [hpos]
    simpa [Decimal.writtenOut, hd, d] using h

end ResourceSql.Sql
