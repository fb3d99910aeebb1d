import Mathlib
import ResourceSql.Json.Printer
import ResourceSql.Proofs.Decimal.Notation
import ResourceSql.Proofs.Decimal.Shortest
import ResourceSql.Proofs.Json.Numerals

/-!
# Numbers of JSON text

The text of a whole number is a numeral of its value, and the text of a finite double is
a numeral whose value is that of its shortest decimal, in whatever notation.
-/

namespace ResourceSql

namespace Digits

theorem head?_ofNat_ne_zero {n : Nat} (hn : 0 < n) : (ofNat 10 n).head? ≠ some '0' := by
  induction n using Nat.strongRecOn with
  | ind n ih =>
      by_cases hlt : n < 10
      · have hchar : char n ≠ '0' := by
          intro heq
          have hnat := toNat_char_of_lt n hlt
          rw [heq] at hnat
          have hzero : '0'.toNat = 48 := rfl
          omega
        rw [ofNat_of_lt hlt]
        simpa using hchar
      · have hrest := ih (n / 10) (by omega) (by omega)
        rw [ofNat_of_le (by omega) (by omega)]
        rwa [List.head?_append_of_ne_nil _ (ofNat_ne_nil 10 (n / 10))]

theorem areDigits_ofNat (n : Nat) : Numeral.AreDigits (ofNat 10 n) :=
  ⟨ofNat_ne_nil 10 n, fun _ => isDigit_of_mem_ofNat n⟩

end Digits

namespace Numeral

/-- A numeral of these characters and of the value of a decimal. -/
structure Writes (n : Numeral) (negative : Bool) (cs : List Char) (d : Decimal) : Prop where
  inOrder : n.InOrder
  sign : n.negative = negative
  chars : n.whole ++ (fractionChars n.fraction ++ exponentChars n.exponent) = cs
  value : n.decimal.value = d.value

variable {d : Decimal}

theorem exists_writes_of_nonneg (hd : 0 ≤ d.exponent) (hzero : d.coefficient = 0 → d.exponent = 0)
    (negative : Bool) : ∃ n : Numeral, n.Writes negative (Decimal.positional true d) d := by
  have hdigits := Digits.areDigits_ofNat d.coefficient
  refine ⟨⟨negative, Digits.ofNat 10 d.coefficient ++ List.replicate d.exponent.toNat '0',
    some ['0'], none⟩, ⟨⟨by simp [hdigits.1], ?_⟩, ?_, ?_, ?_⟩, rfl, ?_, ?_⟩
  · intro c hc
    rw [List.mem_append, List.mem_replicate] at hc
    rcases hc with hc | ⟨-, rfl⟩
    · exact hdigits.2 c hc
    · decide
  · intro hlength
    dsimp only at hlength ⊢
    rw [List.head?_append_of_ne_nil _ hdigits.1]
    apply Digits.head?_ofNat_ne_zero
    by_contra hcoefficient
    have hcoefficient : d.coefficient = 0 := by omega
    have hexponent := hzero hcoefficient
    rw [hcoefficient, hexponent, Digits.ofNat_of_lt (by omega)] at hlength
    simp at hlength
  · rintro digits ⟨⟩
    refine ⟨by simp, ?_⟩
    intro c hc
    rw [List.mem_singleton.mp hc]
    decide
  · rintro sign digits ⟨⟩
  · rw [Decimal.positional_of_nonneg hd]
    simp [fractionChars, exponentChars]
  · have hread : Digits.readDecimal 0 (Digits.ofNat 10 d.coefficient ++
        List.replicate d.exponent.toNat '0' ++ ['0']) =
          d.coefficient * 10 ^ d.exponent.toNat * 10 := by
      rw [Digits.readDecimal_append, Digits.readDecimal_append_zeros, Digits.readDecimal_ofNat]
      rfl
    rw [Decimal.value_of_nonneg hd]
    simp only [decimal, writtenExponent, Option.getD_some, Decimal.value, hread,
      List.length_singleton]
    push_cast
    norm_num
    ring

theorem exists_writes_of_neg (hd : d.exponent < 0) (hpos : 0 < d.coefficient)
    (negative : Bool) : ∃ n : Numeral, n.Writes negative (Decimal.positional true d) d := by
  have hdigits := Digits.areDigits_ofNat d.coefficient
  obtain ⟨whole, places, hpositional, hpadded, hlength, hne⟩ :=
    Decimal.positional_of_neg hd true
  have hall : ∀ c ∈ whole ++ places, c.isDigit = true := by
    intro c hc
    rw [hpadded] at hc
    exact Digits.isDigit_of_mem_padLeft hdigits.2 hc
  have hplaces : places ≠ [] := by
    rw [← List.length_pos_iff]
    omega
  refine ⟨⟨negative, whole, some places, none⟩, ⟨⟨hne, ?_⟩, ?_, ?_, ?_⟩, rfl, ?_, ?_⟩
  · intro c hc
    exact hall c (List.mem_append_left _ hc)
  · intro hlong
    dsimp only at hlong ⊢
    have htotal := congrArg List.length hpadded
    rw [List.length_append, Digits.padLeft, List.length_append, List.length_replicate] at htotal
    have hnone : (-d.exponent).toNat + 1 - (Digits.ofNat 10 d.coefficient).length = 0 := by
      omega
    rw [Digits.padLeft, hnone, List.replicate_zero, List.nil_append] at hpadded
    rw [← List.head?_append_of_ne_nil whole hne, hpadded]
    exact Digits.head?_ofNat_ne_zero hpos
  · rintro digits ⟨⟩
    exact ⟨hplaces, fun c hc => hall c (List.mem_append_right _ hc)⟩
  · rintro sign digits ⟨⟩
  · rw [hpositional]
    simp [fractionChars, exponentChars]
  · have hread : Digits.readDecimal 0 (whole ++ places) = d.coefficient := by
      rw [hpadded, Digits.readDecimal_padLeft, Digits.readDecimal_ofNat]
    have hexponent : (0 : Int) - places.length = d.exponent := by omega
    simp only [decimal, writtenExponent, Option.getD_some, hread, hexponent]

/-- Digits with a point after the first one, if there are more. -/
theorem exists_mantissa {digits : List Char} (hdigits : AreDigits digits) :
    ∃ fraction, (∀ places, fraction = some places → AreDigits places) ∧
      (if digits.length ≤ 1 then digits else digits.take 1 ++ '.' :: digits.drop 1) =
        digits.take 1 ++ fractionChars fraction ∧
      digits.take 1 ++ fraction.getD [] = digits ∧
      (fraction.getD []).length + 1 = digits.length := by
  have hlength := List.length_pos_iff.mpr hdigits.1
  by_cases hshort : digits.length ≤ 1
  · have htake : digits.take 1 = digits := List.take_of_length_le hshort
    refine ⟨none, ?_, ?_, ?_, ?_⟩
    · rintro places ⟨⟩
    · simp [hshort, htake, fractionChars]
    · simp [htake]
    · simp only [Option.getD_none, List.length_nil]
      omega
  · refine ⟨some (digits.drop 1), ?_, ?_, List.take_append_drop 1 digits, ?_⟩
    · rintro places ⟨⟩
      refine ⟨?_, fun c hc => hdigits.2 c (List.mem_of_mem_drop hc)⟩
      rw [← List.length_pos_iff, List.length_drop]
      omega
    · simp [hshort, fractionChars]
    · rw [Option.getD_some, List.length_drop]
      omega

theorem exists_writes_scientific (d : Decimal) (negative : Bool) :
    ∃ n : Numeral, n.Writes negative
      (Decimal.scientific true d (d.exponent + (Digits.ofNat 10 d.coefficient).length - 1)) d := by
  have hdigits := Digits.areDigits_ofNat d.coefficient
  have hread := Digits.readDecimal_ofNat d.coefficient
  unfold Decimal.scientific
  generalize Digits.ofNat 10 d.coefficient = digits at *
  generalize hleading : d.exponent + digits.length - 1 = leading
  obtain ⟨fraction, hfraction, hmantissa, hall, hlength⟩ := exists_mantissa hdigits
  have hone : (digits.take 1).length ≤ 1 := List.length_take_le 1 digits
  refine ⟨⟨negative, digits.take 1, fraction,
    some (decide (leading < 0), Digits.ofNat 10 leading.natAbs)⟩,
    ⟨⟨?_, ?_⟩, ?_, hfraction, ?_⟩, rfl, ?_, ?_⟩
  · rw [← List.length_pos_iff, List.length_take]
    omega
  · intro c hc
    exact hdigits.2 c (List.mem_of_mem_take hc)
  · intro hlong
    exact absurd hone (not_le.mpr hlong)
  · rintro sign places ⟨⟩
    exact Digits.areDigits_ofNat leading.natAbs
  · dsimp only
    rw [hmantissa]
    by_cases hsign : leading < 0 <;> simp [exponentChars, hsign]
  · have hexponent : (if leading < 0 then -(leading.natAbs : Int) else leading.natAbs) -
        (fraction.getD []).length = d.exponent := by
      split_ifs <;> omega
    simp only [decimal, writtenExponent, hall, hread, Digits.readDecimal_ofNat,
      decide_eq_true_eq, hexponent]

/-- The digits that JSON text has for a decimal. -/
theorem exists_writes {d : Decimal} (hzero : d.coefficient = 0 → d.exponent = 0)
    (negative : Bool) : ∃ n : Numeral, n.Writes negative (Json.numbers.write d) d := by
  unfold Decimal.Layout.write Json.numbers
  dsimp only
  split_ifs with hpositional
  · by_cases hd : 0 ≤ d.exponent
    · exact exists_writes_of_nonneg hd hzero negative
    · refine exists_writes_of_neg (by omega) ?_ negative
      by_contra hcoefficient
      have := hzero (by omega)
      omega
  · exact exists_writes_scientific d negative

end Numeral

namespace Decimal

/-- The shortest decimal of a double is zero only in one form. -/
theorem exponent_shortest_eq_zero {tie : Tie} {x : Binary64}
    (h : (shortest tie x).coefficient = 0) : (shortest tie x).exponent = 0 := by
  cases hzero : x.isZero with
  | true => simp [shortest, hzero]
  | false =>
      have hcontains := (contains_shortest tie hzero).half hzero
      have hvalue : (shortest tie x).value = 0 := by simp [value, h]
      have hpos : (1 : ℚ) ≤ x.significand := by exact_mod_cast significand_pos hzero
      have hunit : (0 : ℚ) < 2 ^ x.exponent := by positivity
      rw [hvalue] at hcontains
      nlinarith [hcontains.1.1]

theorem denotes_int (k : WideInt) :
    Denotes (decide (k.val < 0)) ⟨k.val.natAbs, 0⟩ (.int k) := by
  have hratio : ratio ⟨k.val.natAbs, 0⟩ = (k.val.natAbs, 1) := by simp [ratio]
  rw [Denotes, hratio]
  simp only [decide_eq_true_eq]
  split_ifs <;> omega

end Decimal

namespace Json

/-- The text of a finite double is a numeral that denotes the double. -/
theorem exists_numeral_float {x : Binary64} (hfinite : x.isFinite = true) :
    ∃ n : Numeral, n.InOrder ∧ (floatText x).toList = n.chars ∧
      n.decimal.Denotes n.negative (.float x) := by
  have hzero : (Decimal.shortest .even x).coefficient = 0 →
      (Decimal.shortest .even x).exponent = 0 :=
    Decimal.exponent_shortest_eq_zero
  obtain ⟨n, hn⟩ := Numeral.exists_writes hzero x.isNegative
  refine ⟨n, hn.inOrder, ?_, ?_⟩
  · have hchars := hn.chars
    simp only [floatText, hfinite, if_true, Decimal.Layout.finite, String.toList_ofList,
      Numeral.chars, hn.sign, hchars]
    cases x.isNegative <;> simp [numbers]
  · rw [hn.sign]
    exact Decimal.ofRatio_ratio hfinite hn.value

/-- The text of a whole number is a numeral that denotes the number. -/
theorem exists_numeral_int (k : WideInt) :
    ∃ n : Numeral, n.InOrder ∧ (Digits.signed k.val).toList = n.chars ∧
      n.decimal.Denotes n.negative (.int k) := by
  have hdigits := Digits.areDigits_ofNat k.val.natAbs
  refine ⟨⟨decide (k.val < 0), Digits.ofNat 10 k.val.natAbs, none, none⟩,
    ⟨hdigits, ?_, ?_, ?_⟩, ?_, ?_⟩
  · intro hlong
    apply Digits.head?_ofNat_ne_zero
    by_contra hcoefficient
    dsimp only at hlong
    rw [show k.val.natAbs = 0 by omega, Digits.ofNat_of_lt (by omega)] at hlong
    simp at hlong
  · rintro places ⟨⟩
  · rintro sign places ⟨⟩
  · by_cases hneg : k.val < 0 <;>
      simp [Digits.signed, Digits.decimal, hneg, Numeral.chars, Numeral.fractionChars,
        Numeral.exponentChars]
  · have hdecimal : Numeral.decimal
        ⟨decide (k.val < 0), Digits.ofNat 10 k.val.natAbs, none, none⟩ = ⟨k.val.natAbs, 0⟩ := by
      simp [Numeral.decimal, Numeral.writtenExponent, Digits.readDecimal_ofNat]
    rw [hdecimal]
    exact Decimal.denotes_int k

end Json

end ResourceSql
