import InCallProximity.Binary.Format
import Mathlib.Algebra.Order.Field.Power
import Mathlib.Algebra.Order.Floor.Ring
import Mathlib.Data.Rat.Floor
import Mathlib.Tactic.FieldSimp
import Mathlib.Tactic.Linarith
import Mathlib.Tactic.NormNum
import Mathlib.Tactic.Positivity
import Mathlib.Tactic.Ring

/-!
# What rounding gives

The code of a format stands for the fraction `Format.value`. A fraction that lies between the values
of two neighbouring codes is rounded to the nearer one, halfway between them to the even code
(`Format.round_between`). What is used of rounding follows from that: what lies closer to a value
than halfway to its neighbours is rounded to it, values are rounded to themselves, and the relative
error of a normal value is at most half a unit in the last place.
-/

namespace InCallProximity.Binary

/-! ## Powers with exponents of either sign -/

theorem pow_toNat_div (b : ℚ) (k : Int) :
    b ^ k.toNat / b ^ (-k).toNat = b ^ k := by
  obtain ⟨n, rfl | rfl⟩ := Int.eq_nat_or_neg k
  · simp
  · simp

theorem two_zpow_pos (k : Int) : (0 : ℚ) < 2 ^ k := zpow_pos two_pos k

theorem two_zpow_lt {k l : Int} : (2 : ℚ) ^ k < 2 ^ l ↔ k < l := zpow_lt_zpow_iff_right₀ one_lt_two

theorem two_zpow_le {k l : Int} : (2 : ℚ) ^ k ≤ 2 ^ l ↔ k ≤ l := zpow_le_zpow_iff_right₀ one_lt_two

theorem two_zpow_add (k l : Int) : (2 : ℚ) ^ (k + l) = 2 ^ k * 2 ^ l := zpow_add₀ two_ne_zero k l

/-! ## Rounding quotients -/

/-- Rounding a quotient that lies between two integers. -/
theorem roundDiv_between {num den k : Nat} (positive : 0 < den) (low : (k : ℚ) ≤ num / den)
    (high : (num / den : ℚ) < k + 1) :
    roundDiv num den =
      if (num / den : ℚ) < k + 1 / 2 then k
      else if (k + 1 / 2 : ℚ) < num / den then k + 1
      else if k % 2 = 0 then k else k + 1 := by
  have positiveToo : (0 : ℚ) < den := Nat.cast_pos.mpr positive
  have lowNat : k * den ≤ num := by
    rw [le_div_iff₀ positiveToo] at low
    exact_mod_cast low
  have highNat : num < (k + 1) * den := by
    rw [div_lt_iff₀ positiveToo] at high
    exact_mod_cast high
  have quotient : num / den = k := Nat.div_eq_of_lt_le lowNat highNat
  have remainder : num % den + k * den = num := by
    rw [← quotient, Nat.mul_comm]
    exact Nat.mod_add_div num den
  have whole : (num : ℚ) = (num % den : Nat) + k * den := by exact_mod_cast remainder.symm
  have below : (num / den : ℚ) < k + 1 / 2 ↔ 2 * (num % den) < den := by
    rw [div_lt_iff₀ positiveToo, whole, ← @Nat.cast_lt ℚ]
    push_cast
    constructor <;> intro <;> linarith
  have above : (k + 1 / 2 : ℚ) < num / den ↔ den < 2 * (num % den) := by
    rw [lt_div_iff₀ positiveToo, whole, ← @Nat.cast_lt ℚ]
    push_cast
    constructor <;> intro <;> linarith
  unfold roundDiv
  simp only [quotient, below, above]
  rcases Nat.lt_trichotomy (2 * (num % den)) den with less | same | more
  · rw [Nat.compare_eq_lt.mpr less, if_pos less]
  · rw [Nat.compare_eq_eq.mpr same, if_neg same.not_lt, if_neg same.not_gt]
  · rw [Nat.compare_eq_gt.mpr more, if_neg more.not_gt, if_pos more]

/-! ## The binade of a fraction -/

theorem log2_le_cast {n : Nat} (positive : 0 < n) :
    (2 : ℚ) ^ (n.log2 : Int) ≤ n ∧ (n : ℚ) < 2 ^ (n.log2 + 1 : Int) := by
  have low := Nat.log2_self_le positive.ne'
  have high := @Nat.lt_log2_self n
  constructor
  · rw [zpow_natCast]
    exact_mod_cast low
  · have same : (n.log2 + 1 : Int) = (n.log2 + 1 : Nat) := by push_cast; ring
    rw [same, zpow_natCast]
    exact_mod_cast high

/-- The logarithm of a fraction, rounded down. -/
theorem floorLog_spec {num den : Nat} (positive : 0 < num) (positiveToo : 0 < den) :
    (2 : ℚ) ^ floorLog num den ≤ num / den ∧ (num / den : ℚ) < 2 ^ (floorLog num den + 1) := by
  have denPositive : (0 : ℚ) < den := Nat.cast_pos.mpr positiveToo
  obtain ⟨numLow, numHigh⟩ := log2_le_cast positive
  obtain ⟨denLow, denHigh⟩ := log2_le_cast positiveToo
  have high : (num / den : ℚ) < 2 ^ ((num.log2 : Int) - den.log2 + 1) := by
    have split : (2 : ℚ) ^ (num.log2 + 1 : Int) =
        2 ^ ((num.log2 : Int) - den.log2 + 1) * 2 ^ (den.log2 : Int) := by
      rw [← two_zpow_add]
      congr 1
      ring
    rw [div_lt_iff₀ denPositive]
    refine numHigh.trans_le (split.le.trans ?_)
    exact mul_le_mul_of_nonneg_left denLow (two_zpow_pos _).le
  have low : (2 : ℚ) ^ ((num.log2 : Int) - den.log2 - 1) ≤ num / den := by
    have split : (2 : ℚ) ^ (num.log2 : Int) =
        2 ^ ((num.log2 : Int) - den.log2 - 1) * 2 ^ (den.log2 + 1 : Int) := by
      rw [← two_zpow_add]
      congr 1
      ring
    rw [le_div_iff₀ denPositive]
    refine le_trans ?_ (split.ge.trans numLow)
    exact mul_le_mul_of_nonneg_left denHigh.le (two_zpow_pos _).le
  unfold floorLog
  simp only [Nat.pow_eq]
  generalize (num.log2 : Int) - den.log2 = estimate at low high ⊢
  have compares : num * 2 ^ (-estimate).toNat < den * 2 ^ estimate.toNat ↔
      (num / den : ℚ) < 2 ^ estimate := by
    rw [← pow_toNat_div 2 estimate, div_lt_div_iff₀ denPositive (by positivity), mul_comm den]
    exact_mod_cast Iff.rfl
  split
  · next less =>
    rw [sub_add_cancel]
    exact ⟨low, compares.mp less⟩
  · next notLess => exact ⟨not_lt.mp (mt compares.mpr notLess), high⟩

/-! ## Codes and their values -/

namespace Format

variable (f : Format)

/-- The fraction that a code stands for. -/
def value (code : Nat) : ℚ := f.units code * 2 ^ f.leastExponent

/-- How many binades above the lowest one the code is. -/
def level (code : Nat) : Nat := code / f.binade - 1

theorem binade_pos : 0 < f.binade := Nat.two_pow_pos _

theorem mantissa_lt (code : Nat) : f.mantissa code < 2 * f.binade := by
  have remainder := Nat.mod_lt code f.binade_pos
  unfold mantissa
  split <;> omega

theorem binade_le_mantissa {code : Nat} (above : 0 < f.level code) :
    f.binade ≤ f.mantissa code := by
  unfold level at above
  unfold mantissa
  split
  · next low =>
    rw [Nat.div_eq_of_lt low] at above
    cases above
  · omega

theorem level_mul_add_mantissa (code : Nat) :
    f.level code * f.binade + f.mantissa code = code := by
  unfold level mantissa
  split
  · next low => simp [Nat.div_eq_of_lt low]
  · next high =>
    have above : 1 ≤ code / f.binade := (Nat.one_le_div_iff f.binade_pos).mpr (not_lt.mp high)
    have whole := Nat.div_add_mod code f.binade
    rw [mul_comm] at whole
    rw [Nat.sub_mul, Nat.one_mul]
    have enough := Nat.mul_le_mul_right f.binade above
    omega

theorem value_eq (code : Nat) :
    f.value code = f.mantissa code * 2 ^ (f.leastExponent + f.level code) := by
  rw [value, units, two_zpow_add, zpow_natCast]
  push_cast [level, Nat.pow_eq]
  ring

theorem units_binade (level : Nat) {mantissa : Nat} (atMost : mantissa ≤ 2 * f.binade)
    (normal : level = 0 ∨ f.binade ≤ mantissa) :
    f.units (level * f.binade + mantissa) = mantissa * 2 ^ level := by
  have positive := f.binade_pos
  unfold units Format.mantissa
  simp only [Nat.pow_eq]
  rcases Nat.lt_or_ge mantissa f.binade with low | enough
  · obtain rfl : level = 0 := normal.resolve_right (not_le.mpr low)
    simp [low, Nat.div_eq_of_lt low]
  · obtain ⟨rest, rfl⟩ := Nat.exists_eq_add_of_le enough
    have notLow : ¬level * f.binade + (f.binade + rest) < f.binade := by omega
    rw [if_neg notLow]
    rcases Nat.lt_or_ge rest f.binade with inside | top
    · have quotient : (level * f.binade + (f.binade + rest)) / f.binade = level + 1 := by
        rw [← add_assoc, ← Nat.succ_mul, mul_comm, Nat.mul_add_div positive,
          Nat.div_eq_of_lt inside, add_zero]
      have remainder : (level * f.binade + (f.binade + rest)) % f.binade = rest := by
        rw [← add_assoc, ← Nat.succ_mul, mul_comm, Nat.mul_add_mod, Nat.mod_eq_of_lt inside]
      rw [quotient, remainder, Nat.add_sub_cancel, add_comm rest]
    · obtain rfl : rest = f.binade := by omega
      have whole : level * f.binade + (f.binade + f.binade) = (level + 2) * f.binade := by ring
      rw [whole, Nat.mul_div_cancel _ positive, Nat.mul_mod_left]
      have above : level + 2 - 1 = level + 1 := rfl
      rw [above, pow_succ]
      ring

/-- The next value is one unit of the binade away. -/
theorem value_succ (code : Nat) :
    f.value (code + 1) = (f.mantissa code + 1) * 2 ^ (f.leastExponent + f.level code) := by
  have next : code + 1 = f.level code * f.binade + (f.mantissa code + 1) := by
    rw [← add_assoc, level_mul_add_mantissa]
  have normal : f.level code = 0 ∨ f.binade ≤ f.mantissa code + 1 := by
    rcases Nat.eq_zero_or_pos (f.level code) with lowest | above
    · exact Or.inl lowest
    · exact Or.inr ((f.binade_le_mantissa above).trans (Nat.le_succ _))
  rw [value, next, units_binade f _ (f.mantissa_lt code) normal, two_zpow_add, zpow_natCast]
  push_cast
  ring

theorem value_succ_sub (code : Nat) :
    f.value (code + 1) - f.value code = 2 ^ (f.leastExponent + f.level code) := by
  rw [value_succ, value_eq f code]
  ring

theorem value_lt_succ (code : Nat) : f.value code < f.value (code + 1) := by
  rw [← sub_pos, value_succ_sub]
  exact two_zpow_pos _

theorem value_strictMono : StrictMono f.value := strictMono_nat_of_lt_succ f.value_lt_succ

theorem value_zero : f.value 0 = 0 := by
  simp [value, units, mantissa, f.binade_pos]

/-- Every fraction below the value of a code lies between two values. -/
theorem exists_between {r : ℚ} (nonnegative : 0 ≤ r) {bound : Nat} (below : r < f.value bound) :
    ∃ code < bound, f.value code ≤ r ∧ r < f.value (code + 1) := by
  induction bound with
  | zero => exact absurd below (not_lt.mpr (f.value_zero.trans_le nonnegative))
  | succ bound ih =>
    rcases lt_or_ge r (f.value bound) with less | more
    · obtain ⟨code, lower, between⟩ := ih less
      exact ⟨code, lower.trans (Nat.lt_succ_self _), between⟩
    · exact ⟨bound, Nat.lt_succ_self _, more, below⟩

/-! ## Rounding between two neighbours -/

/-- The exponent of the unit that a fraction between two neighbours is rounded to. -/
theorem unit_between {code num den : Nat} (positive : 0 < num) (positiveToo : 0 < den)
    (low : f.value code ≤ num / den) (high : (num / den : ℚ) < f.value (code + 1)) :
    max f.leastExponent (floorLog num den - f.fractionBits) = f.leastExponent + f.level code := by
  have binade_eq : (f.binade : ℚ) = 2 ^ (f.fractionBits : Int) := by
    rw [zpow_natCast, binade, Nat.pow_eq]
    push_cast
    rfl
  obtain ⟨logLow, logHigh⟩ := floorLog_spec positive positiveToo
  rw [value_eq] at low
  rw [value_succ] at high
  have atMost : floorLog num den < f.fractionBits + 1 + (f.leastExponent + f.level code) := by
    rw [← two_zpow_lt]
    refine (logLow.trans_lt high).trans_le ?_
    rw [two_zpow_add (f.fractionBits + 1), two_zpow_add f.fractionBits, ← binade_eq, zpow_one]
    refine mul_le_mul_of_nonneg_right ?_ (two_zpow_pos _).le
    have fits := f.mantissa_lt code
    rw [mul_comm]
    exact_mod_cast fits
  rcases Nat.eq_zero_or_pos (f.level code) with lowest | above
  · rw [lowest] at atMost ⊢
    omega
  · have atLeast : f.fractionBits + (f.leastExponent + f.level code) < floorLog num den + 1 := by
      rw [← two_zpow_lt]
      refine lt_of_le_of_lt ?_ logHigh
      refine le_trans ?_ low
      rw [two_zpow_add f.fractionBits, ← binade_eq]
      refine mul_le_mul_of_nonneg_right ?_ (two_zpow_pos _).le
      exact_mod_cast f.binade_le_mantissa above
    omega

theorem mod_two_eq (fractional : 0 < f.fractionBits) (code : Nat) :
    code % 2 = f.mantissa code % 2 := by
  obtain ⟨bits, bits_eq⟩ := Nat.exists_eq_succ_of_ne_zero fractional.ne'
  have even : f.binade = 2 * 2 ^ bits := by
    rw [binade, bits_eq, Nat.pow_eq, Nat.pow_succ, mul_comm]
  conv_lhs => rw [← f.level_mul_add_mantissa code, even, mul_left_comm, Nat.mul_add_mod]

/-- A fraction in units of two to the `exponent`. -/
theorem scaled_div (num den : Nat) (exponent : Int) :
    ((num * Nat.pow 2 (-exponent).toNat : Nat) : ℚ) / (den * Nat.pow 2 exponent.toNat : Nat) =
      (num / den) / 2 ^ exponent := by
  rw [← pow_toNat_div 2 exponent]
  push_cast [Nat.pow_eq]
  rw [mul_div_mul_comm, div_div_eq_mul_div, mul_div_assoc]

/-- A fraction between the values of two codes is rounded to the nearer one, and halfway to the
even code; what comes after infinity is infinity. -/
theorem round_between_min (fractional : 0 < f.fractionBits) {code num den : Nat}
    (positive : 0 < den) (low : f.value code ≤ num / den)
    (high : (num / den : ℚ) < f.value (code + 1)) :
    f.round num den = min f.infinity
      (if 2 * (num / den : ℚ) < f.value code + f.value (code + 1) then code
        else if f.value code + f.value (code + 1) < 2 * (num / den : ℚ) then code + 1
        else if code % 2 = 0 then code else code + 1) := by
  rcases Nat.eq_zero_or_pos num with rfl | numPositive
  · rw [Nat.cast_zero, zero_div, ← f.value_zero, f.value_strictMono.le_iff_le] at low
    obtain rfl := Nat.le_zero.mp low
    rw [Nat.cast_zero, zero_div] at high
    simp [round, f.value_zero, high]
  · have unit := f.unit_between numPositive positive low high
    have unitPositive := two_zpow_pos (f.leastExponent + f.level code)
    have sum : f.value code + f.value (code + 1) =
        2 * ((f.mantissa code + 1 / 2) * 2 ^ (f.leastExponent + f.level code)) := by
      rw [value_eq, value_succ]
      ring
    rw [value_eq, ← le_div_iff₀ unitPositive, ← scaled_div] at low
    rw [value_succ, ← div_lt_iff₀ unitPositive, ← scaled_div] at high
    have denPositive : 0 < den * Nat.pow 2 (f.leastExponent + f.level code).toNat :=
      Nat.mul_pos positive (Nat.two_pow_pos _)
    have rounded := roundDiv_between denPositive low high
    have level : (f.leastExponent + f.level code - f.leastExponent).toNat = f.level code := by omega
    unfold round
    simp only [if_neg numPositive.ne', unit, rounded, level, scaled_div, sum,
      mul_lt_mul_iff_right₀ (two_pos : (0 : ℚ) < 2), div_lt_iff₀ unitPositive,
      lt_div_iff₀ unitPositive, f.mod_two_eq fractional code]
    have top := f.level_mul_add_mantissa code
    split_ifs <;> omega

theorem round_between (fractional : 0 < f.fractionBits) {code num den : Nat}
    (finite : code < f.infinity) (positive : 0 < den)
    (low : f.value code ≤ num / den) (high : (num / den : ℚ) < f.value (code + 1)) :
    f.round num den =
      if 2 * (num / den : ℚ) < f.value code + f.value (code + 1) then code
      else if f.value code + f.value (code + 1) < 2 * (num / den : ℚ) then code + 1
      else if code % 2 = 0 then code else code + 1 := by
  rw [f.round_between_min fractional positive low high]
  refine min_eq_right ?_
  split_ifs <;> omega

variable {f}

/-- What lies closer to a value than halfway to its neighbours is rounded to it, and so is what
lies halfway if the code is even. -/
theorem round_eq (fractional : 0 < f.fractionBits) {code num den : Nat}
    (finite : code + 1 < f.infinity) (positive : 0 < den)
    (low : f.value code + f.value (code + 1) < 2 * (num / den) ∨
      f.value code + f.value (code + 1) = 2 * (num / den) ∧ (code + 1) % 2 = 0)
    (high : 2 * (num / den) < f.value (code + 1) + f.value (code + 2) ∨
      2 * (num / den) = f.value (code + 1) + f.value (code + 2) ∧ (code + 1) % 2 = 0) :
    f.round num den = code + 1 := by
  have below := f.value_lt_succ code
  have above := f.value_lt_succ (code + 1)
  rcases lt_or_ge (num / den : ℚ) (f.value (code + 1)) with less | more
  · have atLeast : f.value code ≤ num / den := by
      rcases low with low | ⟨low, -⟩ <;> linarith
    rw [f.round_between fractional (by omega) positive atLeast less]
    rcases low with low | ⟨low, even⟩
    · rw [if_neg low.not_gt, if_pos low]
    · rw [if_neg low.not_gt, if_neg low.not_lt, if_neg (by omega)]
  · have atMost : (num / den : ℚ) < f.value (code + 2) := by
      rcases high with high | ⟨high, -⟩ <;> linarith
    rw [f.round_between fractional finite positive more atMost]
    rcases high with high | ⟨high, even⟩
    · rw [if_pos high]
    · rw [if_neg high.not_lt, if_neg high.not_gt, if_pos even]

/-- Values are rounded to themselves. -/
theorem round_value (fractional : 0 < f.fractionBits) {code num den : Nat}
    (finite : code < f.infinity) (positive : 0 < den) (same : (num / den : ℚ) = f.value code) :
    f.round num den = code := by
  have above := f.value_lt_succ code
  rw [f.round_between fractional finite positive same.ge (same ▸ above), same, if_pos (by linarith)]

/-- The error of a normal value is at most half a unit in the last place. -/
theorem round_error (fractional : 0 < f.fractionBits) {bound num den : Nat}
    (finite : bound < f.infinity) (positive : 0 < den) (normal : f.value f.binade ≤ num / den)
    (below : (num / den : ℚ) < f.value bound) :
    f.round num den ≤ bound ∧
      |f.value (f.round num den) - num / den| ≤ num / den / (2 * f.binade) := by
  obtain ⟨code, lower, low, high⟩ :=
    f.exists_between (le_trans (f.value_zero ▸ f.value_strictMono.monotone (Nat.zero_le _)) normal)
      below
  have rounds := f.round_between fractional (lower.trans finite) positive low high
  have isNormal : f.binade ≤ code := by
    have less := f.value_strictMono.lt_iff_lt.mp (normal.trans_lt high)
    omega
  have mantissa : f.binade ≤ f.mantissa code := by
    unfold Format.mantissa
    rw [if_neg (by omega)]
    omega
  have unit : (2 : ℚ) ^ (f.leastExponent + f.level code) ≤ num / den / f.binade := by
    rw [le_div_iff₀ (Nat.cast_pos.mpr f.binade_pos)]
    refine le_trans ?_ low
    rw [value_eq, mul_comm]
    exact mul_le_mul_of_nonneg_right (Nat.cast_le.mpr mantissa) (two_zpow_pos _).le
  have gap := f.value_succ_sub code
  have halves : (num / den / (2 * f.binade) : ℚ) = num / den / f.binade / 2 := by
    rw [mul_comm, ← div_div]
  rw [rounds, halves, abs_le]
  split_ifs <;> refine ⟨by omega, ?_, ?_⟩ <;> linarith

/-- Every multiple of a power of two with few enough bits is a value. -/
theorem exists_value {mantissa : Nat} (fits : mantissa ≤ 2 * f.binade) {exponent : Int}
    (least : f.leastExponent ≤ exponent) : ∃ code, f.value code = mantissa * 2 ^ exponent := by
  obtain ⟨level, rfl⟩ := Int.le.dest least
  have exists_units : ∃ code, f.units code = mantissa * 2 ^ level := by
    clear least
    induction level generalizing mantissa with
    | zero =>
      refine ⟨0 * f.binade + mantissa, ?_⟩
      rw [units_binade f 0 fits (Or.inl rfl)]
    | succ level ih =>
      rcases Nat.lt_or_ge mantissa f.binade with low | enough
      · obtain ⟨code, units⟩ := ih (by omega : 2 * mantissa ≤ 2 * f.binade)
        exact ⟨code, by rw [units, pow_succ]; ring⟩
      · exact ⟨_, units_binade f (level + 1) fits (Or.inr enough)⟩
  obtain ⟨code, units⟩ := exists_units
  refine ⟨code, ?_⟩
  rw [value, units, two_zpow_add, zpow_natCast]
  push_cast
  ring

/-! ## Operations -/

theorem value_eq_exponent (code : Nat) :
    f.value code = f.mantissa code * 2 ^ f.exponent code := f.value_eq code

theorem mantissa_pos {code : Nat} (positive : 0 < f.value code) : 0 < f.mantissa code := by
  rw [value_eq] at positive
  exact Nat.cast_pos.mp ((mul_pos_iff_of_pos_right (two_zpow_pos _)).mp positive)

/-- Scaled fractions are rounded as the fractions that they are. -/
theorem roundScaled_eq (num : Nat) {den : Nat} (positive : 0 < den) (exponent : Int) :
    ∃ numToo denToo : Nat, 0 < denToo ∧ f.roundScaled num den exponent = f.round numToo denToo ∧
      (numToo / denToo : ℚ) = num / den * 2 ^ exponent := by
  refine ⟨_, _, Nat.mul_pos positive (Nat.two_pow_pos (-exponent).toNat), rfl, ?_⟩
  have scaled := scaled_div num den (-exponent)
  rw [neg_neg, zpow_neg, div_inv_eq_mul] at scaled
  exact scaled

theorem mul_eq_round (a b : Nat) :
    ∃ num den : Nat, 0 < den ∧ f.mul a b = f.round num den ∧
      (num / den : ℚ) = f.value a * f.value b := by
  obtain ⟨num, den, positive, same, ratio⟩ :=
    @roundScaled_eq f (f.mantissa a * f.mantissa b) _ one_pos (f.exponent a + f.exponent b)
  refine ⟨num, den, positive, same, ?_⟩
  rw [ratio, value_eq_exponent, value_eq_exponent, two_zpow_add]
  push_cast
  ring

theorem div_eq_round {a b : Nat} (nonzero : 0 < f.mantissa b) :
    ∃ num den : Nat, 0 < den ∧ f.div a b = f.round num den ∧
      (num / den : ℚ) = f.value a / f.value b := by
  obtain ⟨num, den, positive, same, ratio⟩ :=
    @roundScaled_eq f (f.mantissa a) _ nonzero (f.exponent a - f.exponent b)
  refine ⟨num, den, positive, same, ?_⟩
  rw [ratio, value_eq_exponent, value_eq_exponent, zpow_sub₀ two_ne_zero, div_mul_div_comm]

theorem convert_eq_round (source target : Format) (code : Nat) :
    ∃ num den : Nat, 0 < den ∧ source.convert target code = target.round num den ∧
      (num / den : ℚ) = source.value code := by
  obtain ⟨num, den, positive, same, ratio⟩ :=
    @roundScaled_eq target (source.mantissa code) _ one_pos (source.exponent code)
  refine ⟨num, den, positive, same, ?_⟩
  rw [ratio, value_eq_exponent, Nat.cast_one, div_one]

end Format

end InCallProximity.Binary
