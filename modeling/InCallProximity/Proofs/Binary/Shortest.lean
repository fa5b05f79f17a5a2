import InCallProximity.Binary.Shortest
import InCallProximity.Proofs.Binary.Rounding

/-!
# The fewest digits that read back do

The decimal that is selected for a value is rounded to it (`Format.Holds`), and where the value is
as far from its lower neighbour as from its upper one, the decimal is off by half a unit of its last
place at most (`Format.Best`). For singles nine digits are enough, which bounds digits and exponent
(`Format.exists_selected`).
-/

namespace InCallProximity.Binary

/-! ## Decimals -/

/-- Between two powers of ten lies what has as many digits. -/
theorem ten_pow_length {n : Nat} (positive : 0 < n) :
    10 ^ ((Nat.toDigits 10 n).length - 1) ≤ n ∧ n < 10 ^ (Nat.toDigits 10 n).length := by
  induction n using Nat.strongRecOn with
  | _ n ih =>
    rcases Nat.lt_or_ge n 10 with single | more
    · rw [Nat.toDigits_of_lt_base single]
      exact ⟨positive, single⟩
    · obtain ⟨low, high⟩ := ih (n / 10) (by omega) (by omega)
      have length := @Nat.length_toDigits_pos 10 (n / 10)
      obtain ⟨k, length_eq⟩ := Nat.exists_eq_succ_of_ne_zero length.ne'
      rw [Nat.toDigits_of_base_le (by decide) more, List.length_append, List.length_singleton,
        Nat.add_sub_cancel, Nat.pow_succ]
      rw [length_eq, Nat.succ_sub_one] at low
      rw [length_eq, Nat.pow_succ] at high ⊢
      omega

/-- The digits of a fraction from one on. -/
theorem length_of_le {num den : Nat} (positive : 0 < den) (large : den ≤ num) :
    10 ^ ((Nat.toDigits 10 (num / den)).length - 1) * den ≤ num ∧
      num < 10 ^ (Nat.toDigits 10 (num / den)).length * den := by
  obtain ⟨low, high⟩ := ten_pow_length (Nat.div_pos large positive)
  exact ⟨(Nat.le_div_iff_mul_le positive).mp low, (Nat.div_lt_iff_lt_mul positive).mp high⟩

/-- The digits of the reciprocal of a fraction below one: rounded up, it is one more than a number
of so many digits. -/
theorem length_of_lt {num den : Nat} (positive : 0 < num) (small : num < den) :
    den ≤ 10 ^ (Nat.toDigits 10 ((den + num - 1) / num - 1)).length * num ∧
      10 ^ ((Nat.toDigits 10 ((den + num - 1) / num - 1)).length - 1) * num < den := by
  obtain ⟨rest, rounds⟩ : ∃ rest, (den + num - 1) / num = rest + 1 :=
    Nat.exists_eq_succ_of_ne_zero (Nat.div_pos (by omega) positive).ne'
  have atLeast : num * (rest + 1) ≤ den + num - 1 := rounds ▸ Nat.mul_div_le _ _
  have atMost : den + num - 1 < num * (rest + 1 + 1) := rounds ▸ Nat.lt_mul_div_succ _ positive
  have restPositive : 0 < rest := by
    refine Nat.pos_of_ne_zero fun zero => ?_
    rw [zero] at atMost
    omega
  obtain ⟨low, high⟩ := ten_pow_length restPositive
  have first := Nat.mul_le_mul_left num low
  have second := Nat.mul_le_mul_left num (Nat.succ_le_of_lt high)
  rw [Nat.mul_add_one] at atLeast atMost
  rw [Nat.succ_eq_add_one] at second
  rw [rounds, Nat.add_sub_cancel, Nat.mul_comm _ num, Nat.mul_comm _ num]
  omega

namespace Decimal

/-- The fraction that a decimal stands for. -/
def value (d : Decimal) : ℚ := d.digits * 10 ^ d.exponent

/-- Trailing zeros are moved into the exponent, and nothing else changes. -/
theorem strip_spec (steps : Nat) (d : Decimal) : ∃ zeros : Nat,
    d.digits = (d.strip steps).digits * 10 ^ zeros ∧
      (d.strip steps).exponent = d.exponent + zeros := by
  induction steps generalizing d with
  | zero => exact ⟨0, (Nat.mul_one _).symm, (Int.add_zero _).symm⟩
  | succ steps ih =>
    unfold strip
    split
    · next zero =>
      obtain ⟨zeros, digits, exponent⟩ := ih ⟨d.digits / 10, d.exponent + 1⟩
      refine ⟨zeros + 1, ?_, ?_⟩
      · rw [Nat.pow_succ, ← Nat.mul_assoc, ← digits]
        change d.digits = d.digits / 10 * 10
        omega
      · rw [exponent]
        push_cast
        ring
    · exact ⟨0, (Nat.mul_one _).symm, (Int.add_zero _).symm⟩

theorem value_strip (steps : Nat) (d : Decimal) : (d.strip steps).value = d.value := by
  obtain ⟨zeros, digits, exponent⟩ := d.strip_spec steps
  rw [value, value, digits, exponent, zpow_add₀ (by norm_num), zpow_natCast]
  push_cast
  ring

/-- At most as many zeros are dropped as there are digits. -/
theorem strip_few {d : Decimal} (positive : 0 < d.digits) {most : Nat} (few : d.digits ≤ 10 ^ most)
    (steps : Nat) : 0 < (d.strip steps).digits ∧ (d.strip steps).digits ≤ 10 ^ most ∧
      d.exponent ≤ (d.strip steps).exponent ∧ (d.strip steps).exponent ≤ d.exponent + most := by
  obtain ⟨zeros, digits, exponent⟩ := d.strip_spec steps
  have strippedPositive : 0 < (d.strip steps).digits := by
    refine Nat.pos_of_ne_zero fun zero => ?_
    rw [zero, Nat.zero_mul] at digits
    omega
  have fewer : (d.strip steps).digits ≤ (d.strip steps).digits * 10 ^ zeros :=
    Nat.le_mul_of_pos_right _ (Nat.pow_pos (by decide))
  have fewZeros : zeros ≤ most := by
    refine (Nat.pow_le_pow_iff_right (by decide : 1 < 10)).mp (le_trans ?_ few)
    rw [digits]
    exact Nat.le_mul_of_pos_left _ strippedPositive
  exact ⟨strippedPositive, fewer.trans (digits ▸ few), by omega, by omega⟩

end Decimal

namespace Format

variable {f : Format} {code : Nat}

/-! ## Reading back -/

/-- The fractions that are rounded to the code after this one. -/
structure Holds (f : Format) (code : Nat) (v : ℚ) : Prop where
  low : f.value code + f.value (code + 1) < 2 * v ∨
    f.value code + f.value (code + 1) = 2 * v ∧ (code + 1) % 2 = 0
  high : 2 * v < f.value (code + 1) + f.value (code + 2) ∨
    2 * v = f.value (code + 1) + f.value (code + 2) ∧ (code + 1) % 2 = 0

/-! ## The better of two neighbours -/

/-- What the best decimal on a grid has. -/
structure Best (f : Format) (code : Nat) (g : Int) (d : Decimal) : Prop where
  exponent : d.exponent = g
  holds : f.Holds code d.value
  atMost : d.value ≤ f.value (code + 1) + 10 ^ g
  near : f.value (code + 1) - f.value code = f.value (code + 2) - f.value (code + 1) →
    |2 * (d.value - f.value (code + 1))| ≤ 10 ^ g

section Neighbours

variable {g : Int} {low high : Decimal} (apart : high.value = low.value + 10 ^ g)
  (atMost : low.value ≤ f.value (code + 1)) (above : f.value (code + 1) < high.value)
include apart atMost above

/-- The lower of two neighbours on a grid, if the upper one is no better. -/
theorem best_low (onGrid : low.exponent = g) (reads : f.Holds code low.value)
    (better : ¬f.Holds code high.value ∨ 2 * f.value (code + 1) ≤ low.value + high.value) :
    f.Best code g low := by
  have step : (0 : ℚ) < 10 ^ g := zpow_pos (by norm_num) g
  refine ⟨onGrid, reads, by linarith, fun even => ?_⟩
  rw [abs_le]
  rcases better with noReading | closer
  · have beneath := f.value_lt_succ code
    have atLeast : f.value (code + 1) + f.value (code + 2) ≤ 2 * high.value := by
      by_contra less
      exact noReading ⟨Or.inl (by linarith), Or.inl (not_le.mp less)⟩
    have near : f.value code + f.value (code + 1) ≤ 2 * low.value := by
      rcases reads.low with low | ⟨low, -⟩
      · exact low.le
      · exact low.le
    constructor <;> linarith
  · constructor <;> linarith

/-- The upper of two neighbours on a grid, if the lower one is no better. -/
theorem best_high (onGrid : high.exponent = g) (reads : f.Holds code high.value)
    (better : ¬f.Holds code low.value ∨ low.value + high.value ≤ 2 * f.value (code + 1)) :
    f.Best code g high := by
  refine ⟨onGrid, reads, by linarith, fun even => ?_⟩
  rw [abs_le]
  rcases better with noReading | closer
  · have beyond := f.value_lt_succ (code + 1)
    have atMostToo : 2 * low.value ≤ f.value code + f.value (code + 1) := by
      by_contra more
      exact noReading ⟨Or.inl (not_le.mp more), Or.inl (by linarith)⟩
    have near : 2 * high.value ≤ f.value (code + 1) + f.value (code + 2) := by
      rcases reads.high with high | ⟨high, -⟩
      · exact high.le
      · exact high.le
    constructor <;> linarith
  · constructor <;> linarith

end Neighbours

/-- The best decimal on a grid has as many digits as there are places above the grid. -/
theorem Best.digits_le {g : Int} {d : Decimal} (best : f.Best code g d) {places : Nat}
    (below : f.value (code + 1) < 10 ^ (g + places)) : d.digits ≤ 10 ^ places := by
  have step : (0 : ℚ) < 10 ^ g := zpow_pos (by norm_num) _
  have atMost := best.atMost
  rw [Decimal.value, best.exponent] at atMost
  rw [zpow_add₀ (by norm_num), zpow_natCast] at below
  have strict : (d.digits : ℚ) < 10 ^ places + 1 := by
    rw [← mul_lt_mul_iff_left₀ step]
    linarith
  exact Nat.lt_succ_iff.mp (by exact_mod_cast strict)

theorem Best.digits_pos {g : Int} {d : Decimal} (best : f.Best code g d) : 0 < d.digits := by
  refine Nat.pos_of_ne_zero fun zero => ?_
  have value : d.value = 0 := by rw [Decimal.value, zero, Nat.cast_zero, zero_mul]
  have nonnegative := f.value_zero.ge.trans (f.value_strictMono.monotone (Nat.zero_le code))
  have above := f.value_lt_succ code
  rcases best.holds.low with low | ⟨low, -⟩ <;> linarith

section Fine

variable (fine : f.leastExponent ≤ 0)
include fine

theorem compareHalves_spec (d : Decimal) (halves : Nat) :
    (f.compareHalves d halves = .lt ↔ 2 * d.value < halves * 2 ^ f.leastExponent) ∧
      (f.compareHalves d halves = .gt ↔ halves * 2 ^ f.leastExponent < 2 * d.value) ∧
      (f.compareHalves d halves = .eq ↔ 2 * d.value = halves * 2 ^ f.leastExponent) := by
  obtain ⟨n, least⟩ := Int.exists_eq_neg_ofNat fine
  have scale : (0 : ℚ) < 10 ^ (-d.exponent).toNat * 2 ^ n := by positivity
  have left : ((d.digits * Nat.pow 10 d.exponent.toNat *
      Nat.pow 2 (1 - f.leastExponent).toNat : Nat) : ℚ) =
        2 * d.value * (10 ^ (-d.exponent).toNat * 2 ^ n) := by
    have shift : (1 - f.leastExponent).toNat = n + 1 := by omega
    rw [shift, Decimal.value, ← pow_toNat_div]
    push_cast [Nat.pow_eq]
    field_simp
    ring
  have right : ((halves * Nat.pow 10 (-d.exponent).toNat : Nat) : ℚ) =
      halves * 2 ^ f.leastExponent * (10 ^ (-d.exponent).toNat * 2 ^ n) := by
    rw [least, zpow_neg, zpow_natCast]
    push_cast [Nat.pow_eq]
    field_simp
  unfold compareHalves
  rw [Nat.compare_eq_lt, Nat.compare_eq_gt, Nat.compare_eq_eq, ← @Nat.cast_lt ℚ, ← @Nat.cast_lt ℚ,
    ← @Nat.cast_inj ℚ, left, right, mul_lt_mul_iff_left₀ scale, mul_lt_mul_iff_left₀ scale,
    mul_left_inj' scale.ne']
  exact ⟨Iff.rfl, Iff.rfl, Iff.rfl⟩

/-- The test whether a decimal reads back. -/
theorem readsBack_iff (d : Decimal) : f.readsBack (code + 1) d = true ↔ f.Holds code d.value := by
  have halves (c e : Nat) :
      ((f.units c + f.units e : Nat) : ℚ) * 2 ^ f.leastExponent = f.value c + f.value e := by
    push_cast [value]
    ring
  obtain ⟨-, lowAbove, lowAt⟩ := compareHalves_spec fine d (f.units code + f.units (code + 1))
  obtain ⟨highBelow, -, highAt⟩ :=
    compareHalves_spec fine d (f.units (code + 1) + f.units (code + 2))
  rw [halves] at lowAbove lowAt highBelow highAt
  unfold readsBack
  simp only [Nat.add_sub_cancel, Bool.and_eq_true, Bool.or_eq_true, beq_iff_eq, lowAbove, lowAt,
    highBelow, highAt]
  constructor
  · rintro ⟨low, high⟩
    exact ⟨low.imp_right fun ends => ⟨ends.2.symm, ends.1⟩, high.imp_right And.symm⟩
  · rintro ⟨low, high⟩
    exact ⟨low.imp_right fun ends => ⟨ends.2, ends.1.symm⟩, high.imp_right And.symm⟩

/-! ## Grids -/

theorem value_eq_div : f.value code = f.units code / 2 ^ (-f.leastExponent).toNat := by
  obtain ⟨n, least⟩ := Int.exists_eq_neg_ofNat fine
  rw [value, least, neg_neg, Int.toNat_natCast, zpow_neg, zpow_natCast, div_eq_mul_inv]

/-- A positive value lies between two powers of ten. -/
theorem pointPlace_spec (positive : 0 < f.value code) :
    (10 : ℚ) ^ (f.pointPlace code - 1) ≤ f.value code ∧ f.value code < 10 ^ f.pointPlace code := by
  rw [value_eq_div fine] at positive ⊢
  have numPositive : 0 < f.units code := by
    refine Nat.pos_of_ne_zero fun zero => ?_
    rw [zero, Nat.cast_zero, zero_div] at positive
    exact positive.false
  have denPositive : 0 < 2 ^ (-f.leastExponent).toNat := Nat.two_pow_pos _
  have cast : ((2 ^ (-f.leastExponent).toNat : Nat) : ℚ) = 2 ^ (-f.leastExponent).toNat := by
    push_cast
    rfl
  unfold pointPlace
  simp only [Nat.pow_eq]
  rw [← cast]
  generalize f.units code = num at numPositive
  generalize 2 ^ (-f.leastExponent).toNat = den at denPositive
  have denPositiveToo : (0 : ℚ) < den := Nat.cast_pos.mpr denPositive
  rw [le_div_iff₀ denPositiveToo, div_lt_iff₀ denPositiveToo]
  split
  · next large =>
    obtain ⟨low, high⟩ := length_of_le denPositive large
    obtain ⟨k, length⟩ := Nat.exists_eq_succ_of_ne_zero
      (@Nat.length_toDigits_pos 10 (num / den)).ne'
    rw [length] at low high ⊢
    have exponent : ((k.succ : Nat) : Int) - 1 = k := by push_cast; ring
    rw [exponent, zpow_natCast, zpow_natCast]
    exact ⟨by exact_mod_cast low, by exact_mod_cast high⟩
  · next small =>
    obtain ⟨low, high⟩ := length_of_lt numPositive (not_le.mp small)
    obtain ⟨k, length⟩ := Nat.exists_eq_succ_of_ne_zero
      (@Nat.length_toDigits_pos 10 ((den + num - 1) / num - 1)).ne'
    rw [length] at low high ⊢
    have below : (1 - (k.succ : Int) - 1) = -(k.succ : Int) := by ring
    have place : (1 - (k.succ : Int)) = -(k : Int) := by push_cast; ring
    rw [below, place, zpow_neg, zpow_neg, zpow_natCast, zpow_natCast,
      inv_mul_le_iff₀ (by positivity), lt_inv_mul_iff₀ (by positivity)]
    exact ⟨by exact_mod_cast low, by exact_mod_cast high⟩

/-- The lower neighbour on a grid. -/
theorem grid_spec (g : Int) {below : Nat}
    (quotient : f.units code * Nat.pow 10 (-g).toNat /
      (Nat.pow 2 (-f.leastExponent).toNat * Nat.pow 10 g.toNat) = below) :
    (below * 10 ^ g : ℚ) ≤ f.value code ∧ f.value code < (below + 1) * 10 ^ g := by
  have step : (0 : ℚ) < 10 ^ g := zpow_pos (by norm_num) g
  have ratio : f.value code / 10 ^ g =
      ((f.units code * Nat.pow 10 (-g).toNat : Nat) : ℚ) /
        (Nat.pow 2 (-f.leastExponent).toNat * Nat.pow 10 g.toNat : Nat) := by
    rw [value_eq_div fine, ← pow_toNat_div 10 g]
    push_cast [Nat.pow_eq]
    field_simp
  have denPositive : 0 < Nat.pow 2 (-f.leastExponent).toNat * Nat.pow 10 g.toNat :=
    Nat.mul_pos (Nat.two_pow_pos _) (Nat.pow_pos (by decide))
  rw [← le_div_iff₀ step, ← div_lt_iff₀ step, ratio, ← quotient]
  generalize f.units code * Nat.pow 10 (-g).toNat = num
  generalize Nat.pow 2 (-f.leastExponent).toNat * Nat.pow 10 g.toNat = den at denPositive
  have atMost := Nat.div_mul_le_self num den
  have above := Nat.lt_div_mul_add denPositive (a := num)
  rw [← Nat.succ_mul] at above
  have denPositiveToo : (0 : ℚ) < den := Nat.cast_pos.mpr denPositive
  rw [le_div_iff₀ denPositiveToo, div_lt_iff₀ denPositiveToo]
  exact ⟨by exact_mod_cast atMost, by exact_mod_cast above⟩

/-- The test which of two neighbours on a grid is nearer. -/
theorem compareHalves_middle (below : Nat) (g : Int) (code : Nat) :
    let ends := (Decimal.mk below g).value + (Decimal.mk (below + 1) g).value
    (f.compareHalves ⟨2 * below + 1, g⟩ (4 * f.units code) = .lt ↔ ends < 2 * f.value code) ∧
      (f.compareHalves ⟨2 * below + 1, g⟩ (4 * f.units code) = .gt ↔ 2 * f.value code < ends) ∧
      (f.compareHalves ⟨2 * below + 1, g⟩ (4 * f.units code) = .eq ↔ ends = 2 * f.value code) := by
  intro ends
  have middle : 2 * (Decimal.mk (2 * below + 1) g).value = 2 * ends := by
    unfold ends
    rw [Decimal.value, Decimal.value, Decimal.value]
    push_cast
    ring
  have double : ((4 * f.units code : Nat) : ℚ) * 2 ^ f.leastExponent =
      2 * (2 * f.value code) := by
    rw [value]
    push_cast
    ring
  have two : (0 : ℚ) < 2 := by norm_num
  have spec := compareHalves_spec fine ⟨2 * below + 1, g⟩ (4 * f.units code)
  rwa [middle, double, mul_lt_mul_iff_right₀ two, mul_lt_mul_iff_right₀ two,
    mul_right_inj' two.ne'] at spec

theorem best_of_onGrid? {tie : Tie} {g : Int} {d : Decimal}
    (found : f.onGrid? tie (code + 1) g = some d) : f.Best code g d := by
  obtain ⟨below, quotient⟩ : ∃ below, f.units (code + 1) * Nat.pow 10 (-g).toNat /
      (Nat.pow 2 (-f.leastExponent).toNat * Nat.pow 10 g.toNat) = below := ⟨_, rfl⟩
  obtain ⟨low, high⟩ := grid_spec fine g quotient
  have apart : (Decimal.mk (below + 1) g).value = (Decimal.mk below g).value + 10 ^ g := by
    rw [Decimal.value, Decimal.value]
    push_cast
    ring
  have above : f.value (code + 1) < (Decimal.mk (below + 1) g).value := by
    rw [Decimal.value]
    exact_mod_cast high
  obtain ⟨middleBelow, middleAbove, middleAt⟩ := compareHalves_middle fine below g (code + 1)
  have takeLow := @best_low f code g ⟨below, g⟩ ⟨below + 1, g⟩ apart low above rfl
  have takeHigh := @best_high f code g ⟨below, g⟩ ⟨below + 1, g⟩ apart low above rfl
  unfold onGrid? at found
  simp only [quotient] at found
  split at found
  · cases found
  · next reads noReading =>
    cases found
    rw [readsBack_iff fine] at reads
    rw [← Bool.not_eq_true, readsBack_iff fine] at noReading
    exact takeLow reads (Or.inl noReading)
  · next noReading reads =>
    cases found
    rw [readsBack_iff fine] at reads
    rw [← Bool.not_eq_true, readsBack_iff fine] at noReading
    exact takeHigh reads (Or.inl noReading)
  · next reads readsToo =>
    rw [readsBack_iff fine] at reads readsToo
    split at found
    · next greater =>
      cases found
      exact takeLow reads (Or.inr (middleAbove.mp greater).le)
    · next less =>
      cases found
      exact takeHigh readsToo (Or.inr (middleBelow.mp less).le)
    · next same =>
      have equal := middleAt.mp same
      split at found
      · split at found
        · cases found
          exact takeLow reads (Or.inr equal.ge)
        · cases found
          exact takeHigh readsToo (Or.inr equal.le)
      · cases found
        exact takeHigh readsToo (Or.inr equal.le)

/-- On a fine grid there is a decimal that reads back. -/
theorem isSome_onGrid? (tie : Tie) {g : Int}
    (small : 2 * 10 ^ g ≤ f.value (code + 1) - f.value code) :
    (f.onGrid? tie (code + 1) g).isSome = true := by
  obtain ⟨below, quotient⟩ : ∃ below, f.units (code + 1) * Nat.pow 10 (-g).toNat /
      (Nat.pow 2 (-f.leastExponent).toNat * Nat.pow 10 g.toNat) = below := ⟨_, rfl⟩
  obtain ⟨low, high⟩ := grid_spec fine g quotient
  have above := f.value_lt_succ (code + 1)
  have reads : f.readsBack (code + 1) ⟨below, g⟩ = true := by
    rw [readsBack_iff fine, Decimal.value]
    exact ⟨Or.inl (by linarith), Or.inl (by linarith)⟩
  unfold onGrid?
  simp only [quotient, reads]
  split
  · cases ‹true = false›
  · rfl
  · cases ‹true = false›
  · split
    · rfl
    · rfl
    · split <;> rfl

/-- Where no mantissa has more than 24 bits, the ninth digit is finer than the neighbours. -/
theorem ninth_digit_le (fits : f.binade ≤ 2 ^ 23) (code : Nat) :
    2 * 10 ^ (f.pointPlace (code + 1) - (8 : Nat) - 1) ≤ f.value (code + 1) - f.value code := by
  have positive : 0 < f.value (code + 1) := f.value_zero ▸ f.value_strictMono (Nat.succ_pos code)
  have low := (pointPlace_spec fine positive).1
  have exponent : f.pointPlace (code + 1) - (8 : Nat) - 1 = f.pointPlace (code + 1) - 1 - 8 := by
    push_cast
    ring
  have mantissa : (f.mantissa code + 1 : ℚ) ≤ 2 ^ 24 := by
    have less := f.mantissa_lt code
    exact_mod_cast (show f.mantissa code + 1 ≤ 2 ^ 24 by omega)
  have unit := two_zpow_pos (f.leastExponent + f.level code)
  have atMost := mul_le_mul_of_nonneg_right mantissa unit.le
  rw [value_succ] at low
  rw [exponent, zpow_sub₀ (by norm_num), value_succ_sub]
  norm_num at atMost ⊢
  linarith only [low, atMost, unit]

/-- The selected decimal, before its trailing zeros are dropped, has at most nine digits then. -/
theorem exists_best (fits : f.binade ≤ 2 ^ 23) (tie : Tie) (code : Nat) : ∃ n ≤ 8, ∃ d,
    f.Best code (f.pointPlace (code + 1) - (n : Nat) - 1) d ∧
      f.shortest tie (code + 1) = d.strip digitLimit := by
  have reads := isSome_onGrid? fine tie (ninth_digit_le fine fits code)
  have firsts : List.range digitLimit = List.range 9 ++ [9, 10, 11, 12, 13, 14, 15, 16] := by decide
  have found : ((List.range 9).findSome? fun (n : Nat) =>
      f.onGrid? tie (code + 1) (f.pointPlace (code + 1) - n - 1)).isSome = true :=
    List.findSome?_isSome_iff.mpr ⟨8, by decide, reads⟩
  obtain ⟨d, found_d⟩ := Option.isSome_iff_exists.mp found
  obtain ⟨n, among, onGrid⟩ := List.exists_of_findSome?_eq_some found_d
  refine ⟨n, Nat.lt_succ_iff.mp (List.mem_range.mp among), d, best_of_onGrid? fine onGrid, ?_⟩
  unfold shortest
  simp only [firsts, List.findSome?_append, found_d, Option.some_or, Option.getD_some]

end Fine

/-! ## Singles -/

theorem single_leastExponent : Format.single.leastExponent = -149 := by decide

theorem single_binade : Format.single.binade = 2 ^ 23 := by decide

theorem single_value_one : Format.single.value 1 = 2 ^ (-149 : Int) := by
  have units : Format.single.units 1 = 1 := by decide
  rw [value, units, single_leastExponent, Nat.cast_one, one_mul]

theorem single_value_infinity : Format.single.value Format.single.infinity = 2 ^ (128 : Int) := by
  have top : Format.single.infinity = 254 * Format.single.binade + Format.single.binade := by decide
  have positive := Format.single.binade_pos
  have binade : (Format.single.binade : ℚ) = 2 ^ (23 : Int) := by
    rw [single_binade]
    norm_num
  rw [top, value, units_binade _ _ (by omega) (Or.inr le_rfl), single_leastExponent, Nat.cast_mul,
    binade]
  norm_num

/-- A decimal on a grid that is selected for a single, and what is left of it without trailing
zeros. -/
structure Selected (code : Nat) (grid stripped : Decimal) : Prop where
  best : Format.single.Best code grid.exponent grid
  positive : 0 < grid.digits
  least : -53 ≤ grid.exponent
  most : grid.exponent ≤ 38
  value : stripped.value = grid.value
  strippedPositive : 0 < stripped.digits
  few : stripped.digits ≤ 10 ^ 9
  exponent : grid.exponent ≤ stripped.exponent
  fewZeros : stripped.exponent ≤ grid.exponent + 9

/-- The places of the decimal point of all positive singles. -/
theorem single_place (finite : code + 1 < Format.single.infinity) :
    -45 < Format.single.pointPlace (code + 1) ∧ Format.single.pointPlace (code + 1) - 1 < 39 := by
  have positive : 0 < Format.single.value (code + 1) :=
    Format.single.value_zero ▸ Format.single.value_strictMono (Nat.succ_pos code)
  obtain ⟨low, high⟩ := @pointPlace_spec .single (code + 1) (by decide) positive
  have least := Format.single.value_strictMono.monotone (show 1 ≤ code + 1 by omega)
  have most := Format.single.value_strictMono finite
  rw [single_value_one] at least
  rw [single_value_infinity] at most
  have one_lt_ten : (1 : ℚ) < 10 := by norm_num
  constructor
  · rw [← zpow_lt_zpow_iff_right₀ one_lt_ten]
    exact lt_trans (by norm_num) (least.trans_lt high)
  · rw [← zpow_lt_zpow_iff_right₀ one_lt_ten]
    exact (low.trans_lt most).trans (by norm_num)

theorem exists_selected (finite : code + 1 < Format.single.infinity) (tie : Tie) :
    ∃ grid, Selected code grid (Format.single.shortest tie (code + 1)) := by
  obtain ⟨n, few, d, best, selects⟩ := @exists_best .single (by decide) (by decide) tie code
  obtain ⟨placeLow, placeHigh⟩ := single_place finite
  have positive : 0 < Format.single.value (code + 1) :=
    Format.single.value_zero ▸ Format.single.value_strictMono (Nat.succ_pos code)
  have exponent := best.exponent
  have digits : d.digits ≤ 10 ^ 9 := by
    refine best.digits_le ?_
    refine (@pointPlace_spec .single (code + 1) (by decide) positive).2.trans_le ?_
    exact zpow_le_zpow_right₀ (by norm_num) (by push_cast; omega)
  obtain ⟨strippedPositive, fewer, strippedLow, strippedHigh⟩ :=
    Decimal.strip_few best.digits_pos digits digitLimit
  rw [selects]
  exact ⟨d, exponent ▸ best, best.digits_pos, by omega, by omega, d.value_strip digitLimit,
    strippedPositive, fewer, strippedLow, strippedHigh⟩

end Format

end InCallProximity.Binary
