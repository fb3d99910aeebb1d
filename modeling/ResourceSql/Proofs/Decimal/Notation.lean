import Mathlib.Tactic.Common
import ResourceSql.Decimal

/-!
# Positional notation

The digits of a decimal in positional notation: which of them stand before the
point, how many after it, and which number they make together.
-/

namespace ResourceSql.Digits

theorem isDigit_of_mem_padLeft {c : Char} {width : Nat} {digits : List Char}
    (hdigits : ∀ d ∈ digits, d.isDigit = true) (hc : c ∈ padLeft width digits) :
    c.isDigit = true := by
  rw [padLeft, List.mem_append, List.mem_replicate] at hc
  rcases hc with ⟨-, rfl⟩ | hc
  · decide
  · exact hdigits c hc

theorem readDecimal_replicate_zero (start k : Nat) :
    readDecimal start (List.replicate k '0') = start * Nat.pow 10 k := by
  induction k generalizing start with
  | zero => simp [readDecimal]
  | succ k ih =>
      have hstep : readDecimal start (List.replicate (k + 1) '0') =
          readDecimal (start * 10) (List.replicate k '0') := rfl
      have hpow : Nat.pow 10 (k + 1) = 10 * Nat.pow 10 k := Nat.mul_comm _ _
      rw [hstep, ih, hpow, Nat.mul_assoc]

/-- Zeros before a number do not change it. -/
theorem readDecimal_padLeft (width : Nat) (digits : List Char) :
    readDecimal 0 (padLeft width digits) = readDecimal 0 digits := by
  rw [padLeft, readDecimal_append, readDecimal_replicate_zero, Nat.zero_mul]

/-- Zeros after a number multiply it by powers of ten. -/
theorem readDecimal_append_zeros (digits : List Char) (k : Nat) :
    readDecimal 0 (digits ++ List.replicate k '0') = readDecimal 0 digits * Nat.pow 10 k := by
  rw [readDecimal_append, readDecimal_replicate_zero]

theorem le_length_padLeft (width : Nat) (digits : List Char) :
    width ≤ (padLeft width digits).length := by
  rw [padLeft, List.length_append, List.length_replicate]
  omega

end ResourceSql.Digits

namespace ResourceSql.Decimal

/-- A whole decimal is its digits with zeros after them. -/
theorem positional_of_nonneg {d : Decimal} (hd : 0 ≤ d.exponent) (pointZero : Bool) :
    positional pointZero d =
      Digits.ofNat 10 d.coefficient ++ List.replicate d.exponent.toNat '0' ++
        (if pointZero then ['.', '0'] else []) := by
  simp [positional, hd]

/-- A decimal with places after the point is its digits, filled up with zeros so that
one stands before the point, and divided there. -/
theorem positional_of_neg {d : Decimal} (hd : d.exponent < 0) (pointZero : Bool) :
    ∃ whole places, positional pointZero d = whole ++ '.' :: places ∧
      whole ++ places =
        Digits.padLeft ((-d.exponent).toNat + 1) (Digits.ofNat 10 d.coefficient) ∧
      places.length = (-d.exponent).toNat ∧ whole ≠ [] := by
  have hnot : ¬0 ≤ d.exponent := by omega
  let padded := Digits.padLeft ((-d.exponent).toNat + 1) (Digits.ofNat 10 d.coefficient)
  have hlen : (-d.exponent).toNat + 1 ≤ padded.length := Digits.le_length_padLeft _ _
  refine ⟨padded.take (padded.length - (-d.exponent).toNat),
    padded.drop (padded.length - (-d.exponent).toNat), ?_, List.take_append_drop _ _, ?_, ?_⟩
  · simp only [positional, hnot, if_false, padded]
  · rw [List.length_drop]
    omega
  · rw [← List.length_pos_iff, List.length_take]
    omega

end ResourceSql.Decimal
