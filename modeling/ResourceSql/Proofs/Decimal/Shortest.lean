import Mathlib
import ResourceSql.Json.Reading
import ResourceSql.Proofs.Decimal.Nearest

/-!
# Shortest decimals read back

The shortest decimal of a double is in the interval of the double: it is taken from a grid
that has a point there, and the finest grid always has one.  So whoever reads the decimal
and rounds it gets the double again.
-/

namespace ResourceSql.Decimal

open Binary64

def value (d : Decimal) : ℚ := d.coefficient * 10 ^ d.exponent

/-! ## Grids -/

theorem pow_toNat_mul {base : ℚ} (hbase : base ≠ 0) (n : Int) :
    base ^ n.toNat = base ^ n * base ^ (-n).toNat := by
  rw [← zpow_natCast, ← zpow_natCast, ← zpow_add₀ hbase]
  congr 1
  omega

theorem quarterPlace_pos (q place : Int) :
    0 < (quarterPlace q place).1 ∧ 0 < (quarterPlace q place).2 := by
  constructor <;> exact Nat.mul_pos (Nat.pow_pos (by omega)) (Nat.pow_pos (by omega))

/-- A quarter of the last place in steps of a grid. -/
theorem quarterPlace_spec (q place : Int) :
    ((quarterPlace q place).1 : ℚ) * 10 ^ place = (quarterPlace q place).2 * 2 ^ (q - 2) := by
  have htwo := pow_toNat_mul (two_ne_zero : (2 : ℚ) ≠ 0) (q - 2)
  have hten := pow_toNat_mul (by norm_num : (10 : ℚ) ≠ 0) (-place)
  rw [neg_neg] at hten
  simp only [quarterPlace, Nat.pow_eq]
  push_cast
  rw [htwo, hten]
  have hcancel : (10 : ℚ) ^ (-place) * 10 ^ place = 1 := by
    rw [← zpow_add₀ (by norm_num), neg_add_cancel, zpow_zero]
  calc (2 : ℚ) ^ (q - 2) * 2 ^ (-(q - 2)).toNat * (10 ^ (-place) * 10 ^ place.toNat) * 10 ^ place
      = 2 ^ (-(q - 2)).toNat * 10 ^ place.toNat * 2 ^ (q - 2) * (10 ^ (-place) * 10 ^ place) := by
        ring
    _ = 2 ^ (-(q - 2)).toNat * 10 ^ place.toNat * 2 ^ (q - 2) := by
        rw [hcancel, mul_one]

/-- Whether quarters reach a grid point is decided on whole numbers. -/
theorem quarters_le_iff (q place : Int) (k c : Nat) :
    ((k : ℚ) * 2 ^ (q - 2) ≤ c * 10 ^ place ↔
        k * (quarterPlace q place).1 ≤ c * (quarterPlace q place).2) ∧
      ((c : ℚ) * 10 ^ place ≤ k * 2 ^ (q - 2) ↔
        c * (quarterPlace q place).2 ≤ k * (quarterPlace q place).1) := by
  have hspec := quarterPlace_spec q place
  have hb : (0 : ℚ) < (quarterPlace q place).2 := by
    exact_mod_cast (quarterPlace_pos q place).2
  have hstep : (0 : ℚ) < 10 ^ place := by positivity
  have hquarters : (k : ℚ) * 2 ^ (q - 2) * (quarterPlace q place).2 =
      (k * (quarterPlace q place).1 : Nat) * 10 ^ place := by
    push_cast
    linear_combination -(k : ℚ) * hspec
  have hpoint : (c : ℚ) * 10 ^ place * (quarterPlace q place).2 =
      (c * (quarterPlace q place).2 : Nat) * 10 ^ place := by
    push_cast
    ring
  constructor
  · rw [← mul_le_mul_iff_left₀ hb, hquarters, hpoint, mul_le_mul_iff_left₀ hstep, Nat.cast_le]
  · rw [← mul_le_mul_iff_left₀ hb, hquarters, hpoint, mul_le_mul_iff_left₀ hstep, Nat.cast_le]

theorem Interval.contains_of_holds {i : Interval} {q place : Int} {c : Nat}
    (h : i.holds (quarterPlace q place).1 (quarterPlace q place).2 c = true) :
    i.Contains (2 ^ (q - 2)) (c * 10 ^ place) := by
  have hlow := quarters_le_iff q place i.low c
  have hhigh := quarters_le_iff q place i.high c
  unfold holds at h
  unfold Contains
  rw [← not_le, ← not_le, hlow.1, hlow.2, hhigh.1, hhigh.2]
  split_ifs at h with hclosed
  · simp only [Bool.and_eq_true, decide_eq_true_eq] at h
    exact ⟨h, fun hopen => absurd hclosed (by simp [hopen])⟩
  · simp only [Bool.and_eq_true, decide_eq_true_eq] at h
    exact ⟨⟨h.1.le, h.2.le⟩, fun _ => ⟨not_le.mpr h.1, not_le.mpr h.2⟩⟩

theorem holds_of_onGrid? {tie : Tie} {x : Binary64} {place : Int} {c : Nat}
    (h : onGrid? tie x place = some c) :
    (interval x).holds (quarterPlace x.exponent place).1 (quarterPlace x.exponent place).2 c =
      true := by
  unfold onGrid? at h
  dsimp only at h
  split at h
  · cases h
  · rename_i hbelow habove
    cases h
    exact hbelow
  · rename_i hbelow habove
    cases h
    exact habove
  · rename_i hbelow habove
    generalize (interval x).middle * (quarterPlace x.exponent place).1 /
      (quarterPlace x.exponent place).2 = below at *
    have hc : c = below ∨ c = below + 1 := by
      cases tie <;> split_ifs at h <;> cases h <;> simp
    rcases hc with rfl | rfl
    · exact hbelow
    · exact habove

theorem exists_onGrid?_of_holds (tie : Tie) {x : Binary64} {place : Int}
    (h : (interval x).holds (quarterPlace x.exponent place).1 (quarterPlace x.exponent place).2
      ((interval x).middle * (quarterPlace x.exponent place).1 /
        (quarterPlace x.exponent place).2 + 1) = true) :
    ∃ c, onGrid? tie x place = some c := by
  rw [← Option.isSome_iff_exists]
  unfold onGrid?
  dsimp only
  rw [h]
  split
  · simp_all
  · simp_all
  · rfl
  · cases tie <;> split_ifs <;> rfl

/-- Where a step is shorter than half a unit, the next grid point is in the interval. -/
theorem holds_above {x : Binary64} (hzero : x.isZero = false) {a b : Nat} (hb : 0 < b)
    (hstep : b < 2 * a) :
    (interval x).holds a b ((interval x).middle * a / b + 1) = true := by
  have hpos := significand_pos hzero
  have hlow : (interval x).low * a ≤ (interval x).middle * a := by
    apply Nat.mul_le_mul_right
    simp only [interval]
    split_ifs <;> omega
  have hhigh : (interval x).high * a = (interval x).middle * a + 2 * a := by
    simp only [interval]
    ring
  have hbelow := Nat.div_mul_le_self ((interval x).middle * a) b
  have habove := Nat.lt_div_mul_add (a := (interval x).middle * a) hb
  have hnext : ((interval x).middle * a / b + 1) * b =
      (interval x).middle * a / b * b + b := by
    ring
  unfold Interval.holds
  rw [hnext, hhigh]
  split_ifs
  · simp only [Bool.and_eq_true, decide_eq_true_eq]
    omega
  · simp only [Bool.and_eq_true, decide_eq_true_eq]
    omega

/-- Ninety-three doublings are less than twenty-eight factors of ten, any number of times. -/
theorem two_pow_le_ten_pow {n m : ℕ} (blocks : ℕ) (hn : n ≤ 93 * blocks + 53)
    (hm : 28 * blocks + 16 ≤ m) : 2 ^ n ≤ 10 ^ m := by
  have hblock : 2 ^ 93 ≤ 10 ^ 28 := by norm_num
  have hrest : 2 ^ 53 ≤ 10 ^ 16 := by norm_num
  calc 2 ^ n ≤ 2 ^ (93 * blocks + 53) := Nat.pow_le_pow_right (by omega) hn
    _ = (2 ^ 93) ^ blocks * 2 ^ 53 := by rw [pow_add, pow_mul]
    _ ≤ (10 ^ 28) ^ blocks * 10 ^ 16 :=
      Nat.mul_le_mul (Nat.pow_le_pow_left hblock blocks) hrest
    _ = 10 ^ (28 * blocks + 16) := by rw [pow_add, pow_mul]
    _ ≤ 10 ^ m := Nat.pow_le_pow_right (by omega) hm

/-- A grid as fine as the finest one has a point in every interval. -/
theorem exists_onGrid? (tie : Tie) {x : Binary64} (hzero : x.isZero = false) {place : Int}
    (hfine : place ≤ -324) : ∃ c, onGrid? tie x place = some c := by
  have hge := exponent_ge x
  have hcoarse : Nat.pow 10 place.toNat = 1 := by
    rw [Int.toNat_of_nonpos (by omega)]
  have hdoublings : 2 ^ (-(x.exponent - 2)).toNat ≤ 10 ^ (-place).toNat :=
    two_pow_le_ten_pow 11 (by omega) (by omega)
  have hunit : 0 < 2 ^ (x.exponent - 2).toNat := Nat.pow_pos (by omega)
  have hstep : (quarterPlace x.exponent place).2 < 2 * (quarterPlace x.exponent place).1 :=
    calc Nat.pow 2 (-(x.exponent - 2)).toNat * Nat.pow 10 place.toNat
        = 2 ^ (-(x.exponent - 2)).toNat := by rw [hcoarse, Nat.mul_one, Nat.pow_eq]
      _ ≤ 10 ^ (-place).toNat := hdoublings
      _ ≤ 2 ^ (x.exponent - 2).toNat * 10 ^ (-place).toNat := Nat.le_mul_of_pos_left _ hunit
      _ < 2 * (2 ^ (x.exponent - 2).toNat * 10 ^ (-place).toNat) :=
        lt_two_mul_self (Nat.mul_pos hunit (Nat.pow_pos (by omega)))
  exact exists_onGrid?_of_holds tie (holds_above hzero (quarterPlace_pos _ _).2 hstep)

/-- The shortest decimal of a double is in the interval of the double. -/
theorem contains_shortest (tie : Tie) {x : Binary64} (hzero : x.isZero = false) :
    (interval x).Contains (2 ^ (x.exponent - 2)) (shortest tie x).value := by
  obtain ⟨finest, hfinest⟩ := exists_onGrid? tie hzero (Int.le_refl (-324))
  have hsome : (places.findSome? fun place =>
      (onGrid? tie x place).map fun c => (⟨c, place⟩ : Decimal)).isSome = true := by
    rw [List.findSome?_isSome_iff]
    refine ⟨-324, ?_, by simp [hfinest]⟩
    exact List.mem_map.mpr ⟨633, by simp, rfl⟩
  obtain ⟨d, hd⟩ := Option.isSome_iff_exists.mp hsome
  obtain ⟨place, -, hplace⟩ := List.exists_of_findSome?_eq_some hd
  obtain ⟨c, hc, rfl⟩ := Option.map_eq_some_iff.mp hplace
  have hshortest : shortest tie x = ⟨c, place⟩ := by
    unfold shortest
    rw [if_neg (by simp [hzero]), hd]
    rfl
  rw [hshortest]
  exact Interval.contains_of_holds (holds_of_onGrid? hc)

/-! ## Reading back -/

theorem value_of_nonneg {d : Decimal} (hd : 0 ≤ d.exponent) :
    d.value = d.coefficient * 10 ^ d.exponent.toNat := by
  unfold value
  conv_lhs => rw [← Int.toNat_of_nonneg hd]
  rw [zpow_natCast]

theorem ratio_pos (d : Decimal) : 0 < d.ratio.2 := Nat.pow_pos (by omega)

theorem value_eq_ratio (d : Decimal) : d.value = (d.ratio.1 : ℚ) / d.ratio.2 := by
  have hten : (10 : ℚ) ≠ 0 := by norm_num
  have hpow := pow_toNat_mul hten d.exponent
  have hne : (10 : ℚ) ^ (-d.exponent).toNat ≠ 0 := by positivity
  simp only [value, ratio, Nat.pow_eq]
  push_cast
  rw [hpow, mul_div_assoc, mul_div_assoc, div_self hne, mul_one]

/-- Whatever decimal has the value of the shortest one of a double is rounded to the
double. -/
theorem ofRatio_ratio {tie : Tie} {x : Binary64} (hfinite : x.isFinite = true) {d : Decimal}
    (h : d.value = (shortest tie x).value) :
    ofRatio x.isNegative d.ratio.1 d.ratio.2 = x := by
  cases hzero : x.isZero with
  | true =>
      have hshortest : shortest tie x = ⟨0, 0⟩ := by simp [shortest, hzero]
      have hvalue : d.value = 0 := by
        rw [h, hshortest, value, Nat.cast_zero, zero_mul]
      have hten : (10 : ℚ) ^ d.exponent ≠ 0 := by positivity
      have hcoefficient : d.coefficient = 0 := by
        simpa [value, hten] using hvalue
      have hbits := eq_ofMagnitude x
      have hmagnitude :
          (x.exponent + 1074).toNat * 0x10000000000000 + x.significand = 0 := by
        simp only [isZero, Bool.and_eq_true, beq_iff_eq] at hzero
        simp [Binary64.exponent, significand, hzero]
      rw [hmagnitude] at hbits
      simpa [ofRatio, ratio, hcoefficient] using hbits.symm
  | false =>
      have hcontains := contains_shortest tie hzero
      rw [← h, value_eq_ratio] at hcontains
      exact ofRatio_eq_of_contains hfinite hzero d.ratio_pos hcontains

end ResourceSql.Decimal
