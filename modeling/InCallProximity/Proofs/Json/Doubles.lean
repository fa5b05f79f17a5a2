import InCallProximity.Json.Number
import InCallProximity.Proofs.Binary.Rounding

/-!
# Decimals read as doubles

A decimal is read as a double in two rounded steps, the power of ten and the product or quotient, so
the double is off by a little more than one unit in the last place at most
(`Literal.exists_magnitude`). It is exact where both the power and the decimal are doubles
(`Literal.exists_magnitude_exact`).
-/

namespace InCallProximity.Json.Literal

open Binary

/-! ## Doubles far from both ends -/

theorem double_leastExponent : Format.double.leastExponent = -1074 := by decide

theorem double_binade : Format.double.binade = 2 ^ 52 := by decide

theorem double_value_binade (level : Nat) :
    Format.double.value (level * Format.double.binade + Format.double.binade) =
      2 ^ (level - 1022 : Int) := by
  have positive := Format.double.binade_pos
  have binade : (Format.double.binade : ℚ) = 2 ^ (52 : Int) := by
    rw [double_binade]
    norm_num
  rw [Format.value, Format.units_binade _ _ (by omega) (Or.inr le_rfl), double_leastExponent,
    Nat.cast_mul, Nat.cast_pow, binade, Nat.cast_ofNat, ← zpow_natCast 2 level, ← two_zpow_add,
    ← two_zpow_add]
  congr 1
  ring

/-- Fractions far from both ends of the doubles are rounded with a small relative error. -/
theorem double_round_error {num den : Nat} (positive : 0 < den)
    (low : (2 : ℚ) ^ (-250 : Int) ≤ num / den) (high : (num / den : ℚ) < 2 ^ (250 : Int)) :
    Format.double.round num den < Format.double.infinity ∧
      |Format.double.value (Format.double.round num den) - num / den| ≤ num / den / 2 ^ 53 := by
  have normal : Format.double.value Format.double.binade ≤ num / den := by
    have least := double_value_binade 0
    rw [Nat.zero_mul, Nat.zero_add] at least
    rw [least]
    exact le_trans (two_zpow_le.mpr (by decide)) low
  have bound : Format.double.value (1272 * Format.double.binade + Format.double.binade) =
      2 ^ (250 : Int) := double_value_binade 1272
  have finite : 1272 * Format.double.binade + Format.double.binade < Format.double.infinity := by
    decide
  have rounded := Format.round_error (by decide) finite positive normal (bound ▸ high)
  refine ⟨rounded.1.trans_lt finite, rounded.2.trans (le_of_eq ?_)⟩
  rw [double_binade]
  norm_num

/-- A multiple of a power of two with few bits is the value of a double. -/
theorem exists_double {mantissa : Nat} (fits : mantissa ≤ 2 ^ 53) {exponent : Int}
    (least : -1074 ≤ exponent) (high : (mantissa * 2 ^ exponent : ℚ) < 2 ^ (250 : Int)) :
    ∃ code < Format.double.infinity, Format.double.value code = mantissa * 2 ^ exponent := by
  have fitsToo : mantissa ≤ 2 * Format.double.binade := by
    rw [double_binade]
    omega
  obtain ⟨code, same⟩ := Format.exists_value fitsToo (double_leastExponent.trans_le least)
  have infinity : Format.double.value Format.double.infinity = 2 ^ (1024 : Int) :=
    double_value_binade 2046
  refine ⟨code, ?_, same⟩
  rw [← Format.double.value_strictMono.lt_iff_lt, same, infinity]
  exact high.trans (two_zpow_lt.mpr (by decide))

/-! ## The two steps -/

/-- A significand of up to 53 bits is a double. -/
theorem value_significand {significand : Nat} (fits : significand ≤ 2 ^ 53) :
    Format.double.value (Format.double.round significand 1) = significand := by
  have below : ((significand : ℚ) * 2 ^ (0 : Int)) < 2 ^ (250 : Int) := by
    have large : ((2 : ℚ) ^ 53) < 2 ^ (250 : Int) := by norm_num
    rw [zpow_zero, mul_one]
    exact lt_of_le_of_lt (by exact_mod_cast fits) large
  obtain ⟨code, finite, same⟩ := exists_double fits (by decide) below
  rw [zpow_zero, mul_one] at same
  rw [Format.round_value (by decide) finite one_pos (by rw [same, Nat.cast_one, div_one]), same]

/-- A power of ten is a double up to a small relative error. -/
theorem value_powerOfTen {power : Nat} (small : power ≤ 60) :
    |Format.double.value (powerOfTen power) - 10 ^ power| ≤ 10 ^ power / 2 ^ 53 := by
  have atLeast : (1 : ℚ) ≤ 10 ^ power := one_le_pow₀ (by norm_num)
  have atMost : (10 : ℚ) ^ power ≤ 10 ^ 60 := pow_le_pow_right₀ (by norm_num) small
  have ratio : ((Nat.pow 10 power : Nat) / (1 : Nat) : ℚ) = 10 ^ power := by
    push_cast [Nat.pow_eq]
    rw [div_one]
  have low : (2 : ℚ) ^ (-250 : Int) ≤ (Nat.pow 10 power : Nat) / (1 : Nat) := by
    rw [ratio]
    exact le_trans (by norm_num) atLeast
  have high : ((Nat.pow 10 power : Nat) / (1 : Nat) : ℚ) < 2 ^ (250 : Int) := by
    rw [ratio]
    exact lt_of_le_of_lt atMost (by norm_num)
  have rounded := (double_round_error one_pos low high).2
  rwa [ratio] at rounded

/-- Small powers of ten are doubles. -/
theorem value_powerOfTen_exact {power : Nat} (small : power ≤ 22) :
    Format.double.value (powerOfTen power) = 10 ^ power := by
  have fits : 5 ^ power ≤ 2 ^ 53 :=
    (Nat.pow_le_pow_right (by norm_num) small).trans (by norm_num)
  have split : ((5 ^ power : Nat) * 2 ^ (power : Int) : ℚ) = 10 ^ power := by
    rw [zpow_natCast]
    push_cast
    rw [← mul_pow]
    norm_num
  have below : ((5 ^ power : Nat) * 2 ^ (power : Int) : ℚ) < 2 ^ (250 : Int) := by
    rw [split]
    exact lt_of_le_of_lt (pow_le_pow_right₀ (by norm_num) small) (by norm_num)
  obtain ⟨code, finite, same⟩ := exists_double fits (by omega) below
  rw [split] at same
  have ratio : ((Nat.pow 10 power : Nat) / (1 : Nat) : ℚ) = Format.double.value code := by
    rw [same]
    push_cast [Nat.pow_eq]
    rw [div_one]
  rw [powerOfTen, Format.round_value (by decide) finite one_pos ratio, same]

theorem magnitude?_of_nonneg {significand power : Nat} (small : power ≤ powerLimit)
    (finite : Format.double.mul (Format.double.round significand 1) (powerOfTen power) <
      Format.double.infinity) :
    magnitude? significand power =
      some (Format.double.mul (Format.double.round significand 1) (powerOfTen power)) := by
  unfold magnitude?
  simp only [Int.toNat_natCast]
  rw [if_pos (Int.natCast_nonneg power), if_pos small, if_pos finite]

theorem magnitude?_of_neg {significand power : Nat} (positive : 0 < power)
    (small : power ≤ powerLimit) :
    magnitude? significand (-power : Int) =
      some (Format.double.div (Format.double.round significand 1) (powerOfTen power)) := by
  unfold magnitude?
  simp only [neg_neg, Int.toNat_natCast]
  rw [if_neg (by omega), if_pos small]

/-- Two small relative errors add up. -/
theorem error_trans {exact between read : ℚ} (nonnegative : 0 ≤ exact)
    (first : |between - exact| ≤ exact * (3 / 2 / 2 ^ 53))
    (second : |read - between| ≤ between / 2 ^ 53) : |read - exact| ≤ exact * (3 / 2 ^ 53) := by
  rw [abs_le] at *
  constructor <;> linarith

/-- The error of a product whose second factor has an error. -/
theorem mul_error {s t p : ℚ} (s_nonneg : 0 ≤ s) (t_nonneg : 0 ≤ t) (close : |p - t| ≤ t / 2 ^ 53) :
    |s * p - s * t| ≤ s * t * (3 / 2 / 2 ^ 53) := by
  rw [← mul_sub, abs_mul, abs_of_nonneg s_nonneg, mul_assoc]
  refine mul_le_mul_of_nonneg_left (close.trans ?_) s_nonneg
  linarith

/-- The error of a quotient whose divisor has an error. -/
theorem div_error {s t p : ℚ} (s_nonneg : 0 ≤ s) (t_pos : 0 < t) (close : |p - t| ≤ t / 2 ^ 53) :
    |s / p - s / t| ≤ s / t * (3 / 2 / 2 ^ 53) := by
  have atLeast : t * (2 / 3) ≤ p := by
    rw [abs_le] at close
    linarith
  have p_pos : 0 < p := lt_of_lt_of_le (by positivity) atLeast
  have split : s / p - s / t = s / t * ((t - p) / p) := by
    field_simp
  rw [split, abs_mul, abs_of_nonneg (div_nonneg s_nonneg t_pos.le), abs_div, abs_sub_comm,
    abs_of_pos p_pos]
  refine mul_le_mul_of_nonneg_left ?_ (div_nonneg s_nonneg t_pos.le)
  rw [div_le_iff₀ p_pos]
  linarith

section Significands

variable {significand : Nat}

theorem exists_magnitude_of_nonneg (positive : 0 < significand) (fits : significand ≤ 2 ^ 53)
    {power : Nat} (small : power ≤ 56) :
    ∃ code, magnitude? significand power = some code ∧
      |Format.double.value code - significand * 10 ^ power| ≤
        significand * 10 ^ power * (3 / 2 ^ 53) := by
  have atLeast : (1 : ℚ) ≤ significand := Nat.one_le_cast.mpr positive
  have atMost : (significand : ℚ) ≤ 2 ^ 53 := by exact_mod_cast fits
  have one_le : (1 : ℚ) ≤ 10 ^ power := one_le_pow₀ (by norm_num)
  have le_large : (10 : ℚ) ^ power ≤ 10 ^ 56 := pow_le_pow_right₀ (by norm_num) small
  have close := value_powerOfTen (small.trans (by decide))
  have error := mul_error (zero_le_one.trans atLeast) (zero_le_one.trans one_le) close
  obtain ⟨num, den, denPositive, rounds, ratio⟩ := @Format.mul_eq_round .double
    (Format.double.round significand 1) (powerOfTen power)
  rw [value_significand fits] at ratio
  rw [← ratio] at error
  have least : (1 : ℚ) ≤ significand * 10 ^ power :=
    one_le_mul_of_one_le_of_one_le atLeast one_le
  have most : (significand * 10 ^ power : ℚ) ≤ 2 ^ 53 * 10 ^ 56 :=
    mul_le_mul atMost le_large (by positivity) (by positivity)
  have inside := abs_le.mp error
  have above : (2 : ℚ) ^ (-250 : Int) ≤ num / den :=
    le_trans (by norm_num : _ ≤ (1 / 2 : ℚ)) (by linarith)
  have below : (num / den : ℚ) < 2 ^ (250 : Int) :=
    lt_of_le_of_lt (by linarith : _ ≤ (2 ^ 54 * 10 ^ 56 : ℚ)) (by norm_num)
  obtain ⟨finite, second⟩ := double_round_error denPositive above below
  rw [← rounds] at finite second
  refine ⟨_, magnitude?_of_nonneg (small.trans (by decide)) finite, ?_⟩
  exact error_trans (zero_le_one.trans least) error second

theorem exists_magnitude_of_neg (positive : 0 < significand) (fits : significand ≤ 2 ^ 53)
    {power : Nat} (powerPositive : 0 < power) (small : power ≤ 60) :
    ∃ code, magnitude? significand (-power : Int) = some code ∧
      |Format.double.value code - significand / 10 ^ power| ≤
        significand / 10 ^ power * (3 / 2 ^ 53) := by
  have atLeast : (1 : ℚ) ≤ significand := Nat.one_le_cast.mpr positive
  have atMost : (significand : ℚ) ≤ 2 ^ 53 := by exact_mod_cast fits
  have one_le : (1 : ℚ) ≤ 10 ^ power := one_le_pow₀ (by norm_num)
  have le_large : (10 : ℚ) ^ power ≤ 10 ^ 60 := pow_le_pow_right₀ (by norm_num) small
  have close := value_powerOfTen small
  have error := div_error (zero_le_one.trans atLeast) (zero_lt_one.trans_le one_le) close
  have nonzero : 0 < Format.double.mantissa (powerOfTen power) := by
    rw [abs_le] at close
    exact Format.mantissa_pos (by linarith)
  obtain ⟨num, den, denPositive, rounds, ratio⟩ := @Format.div_eq_round .double
    (Format.double.round significand 1) _ nonzero
  rw [value_significand fits] at ratio
  rw [← ratio] at error
  have least : (1 / 10 ^ 60 : ℚ) ≤ significand / 10 ^ power :=
    div_le_div₀ (by linarith) atLeast (by positivity) le_large
  have most : (significand / 10 ^ power : ℚ) ≤ 2 ^ 53 :=
    (div_le_self (by linarith) one_le).trans atMost
  have inside := abs_le.mp error
  have above : (2 : ℚ) ^ (-250 : Int) ≤ num / den :=
    le_trans (by norm_num : _ ≤ (1 / 2 * (1 / 10 ^ 60) : ℚ)) (by linarith)
  have below : (num / den : ℚ) < 2 ^ (250 : Int) :=
    lt_of_le_of_lt (by linarith : _ ≤ (2 ^ 54 : ℚ)) (by norm_num)
  obtain ⟨-, second⟩ := double_round_error denPositive above below
  rw [← rounds] at second
  refine ⟨_, magnitude?_of_neg powerPositive (small.trans (by decide)), ?_⟩
  exact error_trans (by positivity) error second

/-- A decimal of 53 bits is read as a double with a small relative error. -/
theorem exists_magnitude (positive : 0 < significand) (fits : significand ≤ 2 ^ 53) {power : Int}
    (low : -60 ≤ power) (high : power ≤ 56) :
    ∃ code, magnitude? significand power = some code ∧
      |Format.double.value code - significand * 10 ^ power| ≤
        significand * 10 ^ power * (3 / 2 ^ 53) := by
  rcases lt_or_ge power 0 with negative | nonnegative
  · obtain ⟨n, rfl⟩ := Int.exists_eq_neg_ofNat negative.le
    rw [zpow_neg, zpow_natCast, ← div_eq_mul_inv]
    exact exists_magnitude_of_neg positive fits (by omega) (by omega)
  · obtain ⟨n, rfl⟩ := Int.eq_ofNat_of_zero_le nonnegative
    rw [zpow_natCast]
    exact exists_magnitude_of_nonneg positive fits (by omega)

/-- A decimal that is a double itself is read without an error if its power is a double too. -/
theorem exists_magnitude_exact (fits : significand ≤ 2 ^ 53) {power : Int} (low : -22 ≤ power)
    (high : power ≤ 22) {code : Nat} (finite : code < Format.double.infinity)
    (same : (significand * 10 ^ power : ℚ) = Format.double.value code) :
    magnitude? significand power = some code := by
  rcases lt_or_ge power 0 with negative | nonnegative
  · obtain ⟨n, rfl⟩ := Int.exists_eq_neg_ofNat negative.le
    have exact := value_powerOfTen_exact (show n ≤ 22 by omega)
    have nonzero : 0 < Format.double.mantissa (powerOfTen n) := by
      refine Format.mantissa_pos ?_
      rw [exact]
      positivity
    obtain ⟨num, den, denPositive, rounds, ratio⟩ := @Format.div_eq_round .double
      (Format.double.round significand 1) _ nonzero
    rw [zpow_neg, zpow_natCast, ← div_eq_mul_inv] at same
    rw [value_significand fits, exact, same] at ratio
    rw [magnitude?_of_neg (by omega) (by unfold powerLimit; omega), rounds,
      Format.round_value (by decide) finite denPositive ratio]
  · obtain ⟨n, rfl⟩ := Int.eq_ofNat_of_zero_le nonnegative
    obtain ⟨num, den, denPositive, rounds, ratio⟩ := @Format.mul_eq_round .double
      (Format.double.round significand 1) (powerOfTen n)
    rw [value_significand fits, value_powerOfTen_exact (by omega), ← zpow_natCast, same] at ratio
    have product := rounds.trans (Format.round_value (by decide) finite denPositive ratio)
    rw [magnitude?_of_nonneg (by unfold powerLimit; omega) (product.trans_lt finite), product]

end Significands

end InCallProximity.Json.Literal
