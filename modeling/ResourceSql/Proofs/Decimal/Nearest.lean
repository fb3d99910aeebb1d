import Mathlib
import ResourceSql.Decimal
import ResourceSql.Proofs.Binary64.Rounding

/-!
# The interval of a double

Every number in the interval of a finite double is rounded to that double.  Below a
power of two the units are half as large, which is why the interval is shorter there.
-/

namespace ResourceSql.Decimal

open Binary64

/-- A number is in the interval, measured in quarters of the last place. -/
def Interval.Contains (i : Interval) (quarter r : ℚ) : Prop :=
  (i.low * quarter ≤ r ∧ r ≤ i.high * quarter) ∧
    (i.closed = false → i.low * quarter < r ∧ r < i.high * quarter)

variable {x : Binary64} {num den : Nat} {r : ℚ}

theorem significand_pos (hzero : x.isZero = false) : 0 < x.significand := by
  unfold isZero at hzero
  unfold significand
  split_ifs with h
  · simp only [h, beq_self_eq_true, Bool.true_and, beq_eq_false_iff_ne] at hzero
    omega
  · omega

theorem significand_lt (x : Binary64) : x.significand < 0x20000000000000 := by
  unfold significand fractionField
  split_ifs <;> omega

theorem four_mul_sub_two_le_low (hzero : x.isZero = false) :
    4 * (x.significand : ℚ) - 2 ≤ (interval x).low := by
  have hpos := significand_pos hzero
  have hnat : 4 * x.significand ≤ (interval x).low + 2 := by
    simp only [interval]
    split_ifs <;> omega
  have hcast : (4 * x.significand : ℚ) ≤ (interval x).low + 2 := by exact_mod_cast hnat
  linarith

/-- Numbers of the interval are at most half a unit away, and less where the significand is
odd. -/
theorem Interval.Contains.half (hzero : x.isZero = false)
    (h : (interval x).Contains (2 ^ (x.exponent - 2)) r) :
    (((x.significand : ℚ) - 1 / 2) * 2 ^ x.exponent ≤ r ∧
      r ≤ ((x.significand : ℚ) + 1 / 2) * 2 ^ x.exponent) ∧
    (x.significand % 2 = 1 →
      ((x.significand : ℚ) - 1 / 2) * 2 ^ x.exponent < r ∧
        r < ((x.significand : ℚ) + 1 / 2) * 2 ^ x.exponent) := by
  have hlow := four_mul_sub_two_le_low hzero
  have hhigh : ((interval x).high : ℚ) = 4 * x.significand + 2 := by
    simp [interval]
  have hunit : (0 : ℚ) < 2 ^ x.exponent := by positivity
  have hquarter : (2 : ℚ) ^ (x.exponent - 2) = 2 ^ x.exponent / 4 := by
    rw [zpow_sub₀ two_ne_zero]
    norm_num
  obtain ⟨⟨hleft, hright⟩, hopen⟩ := h
  rw [hquarter, hhigh] at *
  have hbound : (4 * (x.significand : ℚ) - 2) * (2 ^ x.exponent / 4) ≤
      (interval x).low * (2 ^ x.exponent / 4) :=
    mul_le_mul_of_nonneg_right hlow (by positivity)
  refine ⟨⟨by linarith, by linarith⟩, ?_⟩
  intro hodd
  have hclosed : (interval x).closed = false := by
    simp [interval, hodd]
  obtain ⟨hleft, hright⟩ := hopen hclosed
  exact ⟨by linarith, by linarith⟩

/-- Below a power of two the interval ends a quarter of a unit away. -/
theorem Interval.Contains.quarter (hfraction : x.fractionField = 0) (hfield : 1 < x.exponentField)
    (h : (interval x).Contains (2 ^ (x.exponent - 2)) r) :
    ((x.significand : ℚ) - 1 / 4) * 2 ^ x.exponent ≤ r := by
  have hlow : ((interval x).low : ℚ) = 4 * x.significand - 1 := by
    have hpos : 1 ≤ 4 * x.significand := by
      have hfield : x.exponentField ≠ 0 := by omega
      simp only [significand, hfield, if_false]
      omega
    simp only [interval, hfraction, hfield, and_self, if_true]
    push_cast [Nat.cast_sub hpos]
    ring
  have hquarter : (2 : ℚ) ^ (x.exponent - 2) = 2 ^ x.exponent / 4 := by
    rw [zpow_sub₀ two_ne_zero]
    norm_num
  have hleft := h.1.1
  rw [hquarter, hlow] at hleft
  linarith

theorem magnitude_le_infinityBits (hfinite : x.isFinite = true) :
    (x.exponent + 1074).toNat * 0x10000000000000 + x.significand ≤ infinityBits := by
  simp only [isFinite, decide_eq_true_eq] at hfinite
  unfold Binary64.exponent significand infinityBits fractionField
  split_ifs <;> omega

/-- A significand is that of a power of two if a number half a unit away has fewer bits. -/
theorem fractionField_eq_zero (hq : x.exponent ≠ -1074)
    (hlow : ((x.significand : ℚ) - 1 / 2) * 2 ^ x.exponent ≤ r)
    (hhigh : r < 2 ^ (x.exponent + 52)) :
    x.fractionField = 0 ∧ 1 < x.exponentField ∧ x.significand = 0x10000000000000 := by
  have hfield : 1 < x.exponentField := by
    unfold Binary64.exponent at hq
    omega
  have hsignificand : x.significand = x.fractionField + 0x10000000000000 := by
    have hne : x.exponentField ≠ 0 := by omega
    simp [significand, hne]
  have hunit : (0 : ℚ) < 2 ^ x.exponent := by positivity
  have hhigh' : r < 2 ^ 52 * 2 ^ x.exponent := by
    rw [zpow_add₀ two_ne_zero, mul_comm] at hhigh
    exact_mod_cast hhigh
  have hlt : (x.significand : ℚ) - 1 / 2 < 2 ^ 52 :=
    lt_of_mul_lt_mul_right (hlow.trans_lt hhigh') hunit.le
  have hnat : 2 * x.significand < 2 ^ 53 + 1 := by
    have hcast : (2 * x.significand : ℚ) < 2 ^ 53 + 1 := by linarith
    exact_mod_cast hcast
  omega

theorem exponent_ge (x : Binary64) : -1074 ≤ x.exponent := by
  unfold Binary64.exponent
  omega

theorem two_zpow_add (q : Int) (k : Nat) : (2 : ℚ) ^ (q + k) = 2 ^ k * 2 ^ q := by
  rw [zpow_add₀ two_ne_zero, zpow_natCast, mul_comm]

/-- Below a power of two, where the units are half as large, the fractions of the interval
are rounded up to the power. -/
theorem ofRatio_eq_of_contains_of_lt (hfinite : x.isFinite = true) (hnum : 0 < num)
    (hden : 0 < den) (hnormal : x.exponent ≠ -1074) (hfraction : x.fractionField = 0)
    (hfield : 1 < x.exponentField) (hsignificand : x.significand = 0x10000000000000)
    (h : (interval x).Contains (2 ^ (x.exponent - 2)) ((num : ℚ) / den))
    (hless : (num : ℚ) / den < 2 ^ (x.exponent + 52)) :
    ofRatio x.isNegative num den = x := by
  have hge := exponent_ge x
  have hunit : (0 : ℚ) < 2 ^ (x.exponent - 1) := by positivity
  have hhalf : (2 : ℚ) ^ x.exponent = 2 ^ 1 * 2 ^ (x.exponent - 1) := by
    rw [← two_zpow_add]
    congr 1
    omega
  have hquarter := h.quarter hfraction hfield
  rw [hsignificand, hhalf] at hquarter
  have hlow : (((0x20000000000000 : Nat) : ℚ) - 1 / 2) * 2 ^ (x.exponent - 1) ≤
      (num : ℚ) / den := by
    push_cast at hquarter ⊢
    linarith
  have hless : (num : ℚ) / den < 2 ^ (x.exponent - 1 + (53 : Nat)) := by
    have heq : x.exponent - 1 + (53 : Nat) = x.exponent + 52 := by omega
    rw [heq]
    exact hless
  have hhigh : (num : ℚ) / den ≤
      (((0x20000000000000 : Nat) : ℚ) + 1 / 2) * 2 ^ (x.exponent - 1) := by
    have hsplit := hless
    rw [two_zpow_add] at hsplit
    push_cast
    linarith
  have hmore : (2 : ℚ) ^ (x.exponent - 1 + (52 : Nat)) ≤ (num : ℚ) / den := by
    rw [two_zpow_add]
    push_cast at hlow
    linarith
  have heven : (0x20000000000000 : Nat) % 2 ≠ 1 := by decide
  have hround := roundHalfEven_scaled hden hlow hhigh fun hodd => absurd hodd heven
  have hexponent := exponentOf_eq hnum hden (by omega) (Or.inl hmore) hless
  have hmagnitude : (x.exponent - 1 + 1074).toNat * 0x10000000000000 + 0x20000000000000 =
      (x.exponent + 1074).toNat * 0x10000000000000 + x.significand := by
    omega
  have hbits := magnitude_le_infinityBits hfinite
  rw [← hmagnitude] at hbits
  rw [ofRatio_eq_ofMagnitude hnum x.isNegative hexponent hbits hround, hmagnitude]
  exact (eq_ofMagnitude x).symm

/-- Every positive fraction in the interval of a finite double is rounded to the double. -/
theorem ofRatio_eq_of_contains (hfinite : x.isFinite = true) (hzero : x.isZero = false)
    (hden : 0 < den)
    (h : (interval x).Contains (2 ^ (x.exponent - 2)) ((num : ℚ) / den)) :
    ofRatio x.isNegative num den = x := by
  obtain ⟨⟨hlow, hhigh⟩, hodd⟩ := h.half hzero
  have hunit : (0 : ℚ) < 2 ^ x.exponent := by positivity
  have hdenq : (0 : ℚ) < den := by exact_mod_cast hden
  have hpos : (1 : ℚ) ≤ x.significand := by exact_mod_cast significand_pos hzero
  have hratio : (0 : ℚ) < (num : ℚ) / den := by nlinarith
  have hnum : 0 < num := by exact_mod_cast (div_pos_iff_of_pos_right hdenq).mp hratio
  by_cases hcase : (2 : ℚ) ^ (x.exponent + 52) ≤ (num : ℚ) / den ∨ x.exponent = -1074
  · have hless : (num : ℚ) / den < (2 : ℚ) ^ (x.exponent + (53 : Nat)) := by
      have hlt : (x.significand : ℚ) + 1 ≤ 2 ^ 53 := by exact_mod_cast significand_lt x
      rw [two_zpow_add]
      nlinarith
    have hexponent := exponentOf_eq hnum hden (exponent_ge x) hcase hless
    have hround := roundHalfEven_scaled hden hlow hhigh hodd
    rw [ofRatio_eq_ofMagnitude hnum x.isNegative hexponent (magnitude_le_infinityBits hfinite)
      hround]
    exact (eq_ofMagnitude x).symm
  · obtain ⟨hless, hnormal⟩ := not_or.mp hcase
    have hless := not_le.mp hless
    obtain ⟨hfraction, hfield, hsignificand⟩ := fractionField_eq_zero hnormal hlow hless
    exact ofRatio_eq_of_contains_of_lt hfinite hnum hden hnormal hfraction hfield hsignificand h
      hless

end ResourceSql.Decimal
