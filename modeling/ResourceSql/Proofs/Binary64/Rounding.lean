import Mathlib
import ResourceSql.Binary64

/-!
# Rounding fractions

What `Binary64.ofRatio` makes of a fraction, said about the rational number that it
is: the exponent leaves fifty-three bits, and the significand is the nearest whole
number of units.
-/

namespace ResourceSql.Binary64

/-! ## Whole numbers -/

/-- A fraction is rounded to a whole number that is at most a half away, where at a half
the number is even. -/
theorem roundHalfEven_eq {n d k : Nat} (hlow : 2 * k * d ≤ 2 * n + d)
    (hhigh : 2 * n ≤ 2 * k * d + d)
    (hodd : k % 2 = 1 → 2 * k * d < 2 * n + d ∧ 2 * n < 2 * k * d + d) (hd : 0 < d) :
    roundHalfEven n d = k := by
  have hdiv := Nat.div_add_mod n d
  have hrest := Nat.mod_lt n hd
  unfold roundHalfEven
  generalize n / d = whole at *
  generalize n % d = rest at *
  have hwhole : whole ≤ k := by
    by_contra hlt
    have hmul : d * (k + 1) ≤ d * whole := Nat.mul_le_mul_left d (by omega)
    nlinarith
  have hnext : k ≤ whole + 1 := by
    by_contra hlt
    have hmul : d * (whole + 2) ≤ d * k := Nat.mul_le_mul_left d (by omega)
    nlinarith
  rcases Nat.lt_or_eq_of_le hwhole with hlt | rfl
  · obtain rfl : k = whole + 1 := by omega
    have hhalf : d ≤ 2 * rest := by nlinarith
    rw [if_neg]
    rintro (hless | ⟨heq, heven⟩)
    · omega
    · have hstrict := (hodd (by omega)).1
      nlinarith
  · have hhalf : 2 * rest ≤ d := by nlinarith
    rw [if_pos]
    rcases Nat.lt_or_eq_of_le hhalf with hless | heq
    · exact Or.inl hless
    · refine Or.inr ⟨heq, ?_⟩
      by_contra hne
      have hstrict := (hodd (by omega)).2
      nlinarith

/-! ## Units -/

variable {num den : Nat}

theorem scaled_pos (num : Nat) (hden : 0 < den) (shift : Int) : 0 < (scaled num den shift).2 := by
  unfold scaled
  split_ifs
  · exact hden
  · exact Nat.mul_pos hden (Nat.pow_pos (by omega))

/-- A scaled fraction is the fraction in units of the power of two. -/
theorem scaled_div (num den : Nat) (shift : Int) :
    ((scaled num den shift).1 : ℚ) / (scaled num den shift).2 =
      (num : ℚ) / den / (2 : ℚ) ^ shift := by
  unfold scaled
  split_ifs with h
  · have hshift : shift = -(shift.natAbs : Int) := by omega
    have hpow : (2 : ℚ) ^ shift = ((2 : ℚ) ^ shift.natAbs)⁻¹ := by
      conv_lhs => rw [hshift]
      rw [zpow_neg, zpow_natCast]
    rw [hpow]
    push_cast [Nat.pow_eq]
    rw [div_inv_eq_mul, div_mul_eq_mul_div]
  · have hshift : shift = (shift.natAbs : Int) := by omega
    have hpow : (2 : ℚ) ^ shift = (2 : ℚ) ^ shift.natAbs := by
      conv_lhs => rw [hshift]
      rw [zpow_natCast]
    rw [hpow]
    push_cast [Nat.pow_eq]
    rw [div_div]

theorem log2_bounds {n : Nat} (hn : 0 < n) :
    (2 : ℚ) ^ (n.log2 : Int) ≤ n ∧ (n : ℚ) < (2 : ℚ) ^ ((n.log2 : Int) + 1) := by
  have hlow : 2 ^ n.log2 ≤ n := Nat.log2_self_le (by omega)
  have hhigh : n < 2 ^ (n.log2 + 1) := Nat.lt_log2_self
  have hcast : ((n.log2 : Int) + 1) = ((n.log2 + 1 : Nat) : Int) := by omega
  rw [hcast, zpow_natCast, zpow_natCast]
  exact ⟨by exact_mod_cast hlow, by exact_mod_cast hhigh⟩

/-- The exponent of a positive fraction leaves fifty-three bits before the point, or is
that of the subnormal numbers. -/
theorem exponentOf_spec (hnum : 0 < num) (hden : 0 < den) :
    ∃ e : Int, exponentOf num den = max e (-1074) ∧
      (2 : ℚ) ^ (e + 52) ≤ (num : ℚ) / den ∧ (num : ℚ) / den < (2 : ℚ) ^ (e + 53) := by
  let low : Int := (Nat.log2 num : Int) - Nat.log2 den - 53
  have hdenq : (0 : ℚ) < den := by exact_mod_cast hden
  obtain ⟨hnumlow, hnumhigh⟩ := log2_bounds hnum
  obtain ⟨hdenlow, hdenhigh⟩ := log2_bounds hden
  have hbelow : (2 : ℚ) ^ (low + 52) ≤ (num : ℚ) / den := by
    rw [le_div_iff₀ hdenq]
    calc (2 : ℚ) ^ (low + 52) * den
        ≤ (2 : ℚ) ^ (low + 52) * (2 : ℚ) ^ ((den.log2 : Int) + 1) :=
          mul_le_mul_of_nonneg_left hdenhigh.le (by positivity)
      _ = (2 : ℚ) ^ (num.log2 : Int) := by
          rw [← zpow_add₀ two_ne_zero]
          congr 1
          omega
      _ ≤ num := hnumlow
  have habove : (num : ℚ) / den < (2 : ℚ) ^ (low + 54) := by
    rw [div_lt_iff₀ hdenq]
    calc (num : ℚ) < (2 : ℚ) ^ ((num.log2 : Int) + 1) := hnumhigh
      _ = (2 : ℚ) ^ (low + 54) * (2 : ℚ) ^ (den.log2 : Int) := by
          rw [← zpow_add₀ two_ne_zero]
          congr 1
          omega
      _ ≤ (2 : ℚ) ^ (low + 54) * den := mul_le_mul_of_nonneg_left hdenlow (by positivity)
  have hfits : (scaled num den low).1 / (scaled num den low).2 < 0x20000000000000 ↔
      (num : ℚ) / den < (2 : ℚ) ^ (low + 53) := by
    have hpos := scaled_pos num hden low
    have hposq : (0 : ℚ) < (scaled num den low).2 := by exact_mod_cast hpos
    have hunit : (0 : ℚ) < (2 : ℚ) ^ low := by positivity
    rw [Nat.div_lt_iff_lt_mul hpos, zpow_add₀ two_ne_zero, mul_comm ((2 : ℚ) ^ low),
      ← div_lt_iff₀ hunit, ← scaled_div, div_lt_iff₀ hposq]
    norm_num
    exact_mod_cast Iff.rfl
  by_cases hlt : (num : ℚ) / den < (2 : ℚ) ^ (low + 53)
  · refine ⟨low, ?_, hbelow, hlt⟩
    have hcond := hfits.mpr hlt
    simp only [exponentOf, low] at hcond ⊢
    rw [if_pos hcond]
  · refine ⟨low + 1, ?_, ?_, ?_⟩
    · have hcond := hfits.not.mpr hlt
      simp only [exponentOf, low] at hcond ⊢
      rw [if_neg hcond]
    · have heq : low + 1 + 52 = low + 53 := by omega
      rw [heq]
      exact not_lt.mp hlt
    · have heq : low + 1 + 53 = low + 54 := by omega
      rw [heq]
      exact habove

/-! ## Nearest doubles -/

/-- A number is rounded to the whole number of units that is at most half a unit away,
where at half a unit the number is even. -/
theorem roundHalfEven_scaled (hden : 0 < den) {m : Nat} {q : Int}
    (hlow : ((m : ℚ) - 1 / 2) * 2 ^ q ≤ (num : ℚ) / den)
    (hhigh : (num : ℚ) / den ≤ ((m : ℚ) + 1 / 2) * 2 ^ q)
    (hodd : m % 2 = 1 →
      ((m : ℚ) - 1 / 2) * 2 ^ q < (num : ℚ) / den ∧
        (num : ℚ) / den < ((m : ℚ) + 1 / 2) * 2 ^ q) :
    roundHalfEven (scaled num den q).1 (scaled num den q).2 = m := by
  have hpos := scaled_pos num hden q
  have hposq : (0 : ℚ) < (scaled num den q).2 := by exact_mod_cast hpos
  have hunit : (0 : ℚ) < (2 : ℚ) ^ q := by positivity
  rw [← le_div_iff₀ hunit, ← scaled_div, le_div_iff₀ hposq] at hlow
  rw [← div_le_iff₀ hunit, ← scaled_div, div_le_iff₀ hposq] at hhigh
  rw [← lt_div_iff₀ hunit, ← div_lt_iff₀ hunit, ← scaled_div, lt_div_iff₀ hposq,
    div_lt_iff₀ hposq] at hodd
  generalize (scaled num den q).1 = n at *
  generalize (scaled num den q).2 = d at *
  apply roundHalfEven_eq _ _ _ hpos
  · have hcast : (2 * m * d : ℚ) ≤ 2 * n + d := by linarith
    exact_mod_cast hcast
  · have hcast : (2 * n : ℚ) ≤ 2 * m * d + d := by linarith
    exact_mod_cast hcast
  · intro hm
    obtain ⟨hstrictlow, hstricthigh⟩ := hodd hm
    have hcastlow : (2 * m * d : ℚ) < 2 * n + d := by linarith
    have hcasthigh : (2 * n : ℚ) < 2 * m * d + d := by linarith
    exact ⟨by exact_mod_cast hcastlow, by exact_mod_cast hcasthigh⟩

/-- The exponent of a fraction with fifty-three bits before the point, or fewer at the
exponent of the subnormal numbers. -/
theorem exponentOf_eq (hnum : 0 < num) (hden : 0 < den) {q : Int} (hq : -1074 ≤ q)
    (hlow : (2 : ℚ) ^ (q + 52) ≤ (num : ℚ) / den ∨ q = -1074)
    (hhigh : (num : ℚ) / den < (2 : ℚ) ^ (q + 53)) : exponentOf num den = q := by
  obtain ⟨e, hexponent, helow, hehigh⟩ := exponentOf_spec hnum hden
  have hle : e + 52 < q + 53 :=
    (zpow_lt_zpow_iff_right₀ (by norm_num : (1 : ℚ) < 2)).mp (helow.trans_lt hhigh)
  rw [hexponent]
  rcases hlow with hlow | rfl
  · have hge : q + 52 < e + 53 :=
      (zpow_lt_zpow_iff_right₀ (by norm_num : (1 : ℚ) < 2)).mp (hlow.trans_lt hehigh)
    omega
  · omega

theorem ofRatio_eq_ofMagnitude (hnum : 0 < num) (negative : Bool) {m : Nat}
    {q : Int} (hexponent : exponentOf num den = q)
    (hfinite : (q + 1074).toNat * 0x10000000000000 + m ≤ infinityBits)
    (hround : roundHalfEven (scaled num den q).1 (scaled num den q).2 = m) :
    ofRatio negative num den =
      ofMagnitude negative ((q + 1074).toNat * 0x10000000000000 + m) := by
  have hne : num ≠ 0 := by omega
  unfold ofRatio
  simp only [hne, if_false, hexponent, hround, min_eq_left hfinite]

/-- A double is made of its sign, its exponent and its significand. -/
theorem eq_ofMagnitude (x : Binary64) :
    x = ofMagnitude x.isNegative
      ((x.exponent + 1074).toNat * 0x10000000000000 + x.significand) := by
  obtain ⟨bits⟩ := x
  have hbits := bits.toNat_lt
  have hmagnitude : (Binary64.exponent ⟨bits⟩ + 1074).toNat * 0x10000000000000 +
      Binary64.significand ⟨bits⟩ = bits.toNat % 0x8000000000000000 := by
    unfold exponent significand exponentField fractionField
    dsimp only
    split_ifs <;> omega
  rw [hmagnitude, ofMagnitude, isNegative, mk.injEq]
  apply UInt64.toNat_inj.mp
  rw [UInt64.toNat_ofNat']
  dsimp only
  split_ifs with h
  · simp only [beq_iff_eq] at h
    omega
  · simp only [beq_iff_eq] at h
    omega

end ResourceSql.Binary64
