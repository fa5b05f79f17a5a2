import InCallProximity.Proofs.Binary.Rounding
import Mathlib.Tactic.LinearCombination

/-!
# Decimals keep apart from halfway points

Halfway between two neighbouring singles lies a multiple, of at most 25 bits, of a power of two. A
decimal whose last place is no finer than the singles around it is equal to such a point, or it
keeps a distance from it that survives two roundings to double, with one exception (`eq_or_apart`).

How close a multiple of `10 ^ g` can come is a question about the fractions close to one number.
Between two fractions `p / q < p' / q'` with `p' q - p q' = 1` lie only fractions whose numerators
are at least `p + p'`. So one such pair around `10 ^ g` over a power of two bounds the distance for
all numerators below that, and for each `g` such a pair is computed and checked.
-/

namespace InCallProximity.Binary

/-! ## Fractions around a number -/

/-- A non-negative fraction, not always in lowest terms. -/
structure Fraction where
  num : Nat
  den : Nat
deriving DecidableEq

/-- How far the first fraction is above the second, over both denominators. -/
def Fraction.above (r s : Fraction) : Nat := r.num * s.den - s.num * r.den

/-- The first fraction moved towards the second one, so many times. -/
def Fraction.toward (r s : Fraction) (times : Nat) : Fraction :=
  ⟨r.num + times * s.num, r.den + times * s.den⟩

/-- A fraction from below and one from above. -/
structure Bracket where
  low : Fraction
  high : Fraction

/-- The numerators of halfway points are smaller. -/
def numBound : Nat := Nat.pow 2 25

/-- How often a step fits into a distance, at most `limit`; a step of zero fits without end. -/
def steps (distance step limit : Nat) : Nat :=
  if step = 0 then limit else min (distance / step) limit

/-- Moves both fractions closer to `r`, in as many rounds as given, as long as the numerators do not
exceed the bound. -/
def Bracket.narrow (r : Fraction) : Nat → Bracket → Bracket
  | 0, b => b
  | rounds + 1, ⟨low, high⟩ =>
    let low := low.toward high <|
      steps (r.above low) (high.above r) ((numBound - low.num) / high.num)
    let high := high.toward low <|
      steps (high.above r) (r.above low) ((numBound - high.num) / low.num)
    narrow r rounds ⟨low, high⟩

/-- No fraction with a small numerator lies strictly between the two. -/
structure Bracket.Tight (b : Bracket) : Prop where
  neighbours : b.high.num * b.low.den = b.low.num * b.high.den + 1
  large : numBound ≤ b.low.num + b.high.num
  lowPositive : 0 < b.low.den
  highPositive : 0 < b.high.den
  lowFits : b.low.den ≤ numBound
  highFits : b.high.den ≤ numBound

instance (b : Bracket) : Decidable b.Tight :=
  decidable_of_iff (b.high.num * b.low.den = b.low.num * b.high.den + 1 ∧
    numBound ≤ b.low.num + b.high.num ∧ 0 < b.low.den ∧ 0 < b.high.den ∧ b.low.den ≤ numBound ∧
    b.high.den ≤ numBound)
    ⟨fun h => ⟨h.1, h.2.1, h.2.2.1, h.2.2.2.1, h.2.2.2.2.1, h.2.2.2.2.2⟩,
      fun h => ⟨h.neighbours, h.large, h.lowPositive, h.highPositive, h.lowFits, h.highFits⟩⟩

/-! ## Powers of ten -/

/-- The binade of ten to the `g`. -/
def tenLog (g : Int) : Int := floorLog (Nat.pow 10 g.toNat) (Nat.pow 10 (-g).toNat)

/-- Ten to the `g` over half of the power of two below it. -/
def tenRatio (g : Int) : Fraction :=
  ⟨Nat.pow 10 g.toNat * Nat.pow 2 (-(tenLog g - 1)).toNat,
    Nat.pow 10 (-g).toNat * Nat.pow 2 (tenLog g - 1).toNat⟩

/-- The fraction keeps a distance from the power of ten. Only small powers are themselves fractions
of few bits, and a single one of the others is closer to such a fraction than the distance. -/
def Fraction.Clear (g : Int) (r : Fraction) : Prop :=
  25 * (r.num * (tenRatio g).den) ≤
      Nat.pow 2 56 * ((tenRatio g).above r + r.above (tenRatio g)) ∨
    r.num * (tenRatio g).den = (tenRatio g).num * r.den ∧ -10 ≤ g ∧ g ≤ 10 ∨
    tenLog g = -107 ∧ r = ⟨22841339, 7038531⟩

instance (g : Int) (r : Fraction) : Decidable (r.Clear g) := by
  unfold Fraction.Clear
  infer_instance

/-- A power of ten lies in a tight bracket that is clear of it. -/
structure Bracket.Separates (g : Int) (b : Bracket) : Prop where
  tight : b.Tight
  low : b.low.num * (tenRatio g).den ≤ (tenRatio g).num * b.low.den
  high : (tenRatio g).num * b.high.den ≤ b.high.num * (tenRatio g).den
  lowClear : b.low.Clear g
  highClear : b.high.Clear g

instance (g : Int) (b : Bracket) : Decidable (b.Separates g) :=
  decidable_of_iff (b.Tight ∧ b.low.num * (tenRatio g).den ≤ (tenRatio g).num * b.low.den ∧
    (tenRatio g).num * b.high.den ≤ b.high.num * (tenRatio g).den ∧ b.low.Clear g ∧
    b.high.Clear g)
    ⟨fun h => ⟨h.1, h.2.1, h.2.2.1, h.2.2.2.1, h.2.2.2.2⟩,
      fun h => ⟨h.tight, h.low, h.high, h.lowClear, h.highClear⟩⟩

/-- What is checked of each power of ten that a single needs: a bracket separates it, and it is not
too close below a power of two. -/
theorem separates_narrow : ∀ k : Nat, k < 92 →
    (Bracket.narrow (tenRatio (k - 53)) 20 ⟨⟨0, 1⟩, ⟨1, 0⟩⟩).Separates (k - 53) ∧
      numBound * (tenRatio (k - 53)).num ≤ (numBound - 1) * (4 * (tenRatio (k - 53)).den) := by
  decide +kernel

theorem exists_separates {g : Int} (least : -53 ≤ g) (most : g ≤ 38) :
    (∃ b : Bracket, b.Separates g) ∧
      numBound * (tenRatio g).num ≤ (numBound - 1) * (4 * (tenRatio g).den) := by
  obtain ⟨k, rfl⟩ : ∃ k : Nat, g = k - 53 := ⟨(g + 53).toNat, by omega⟩
  obtain ⟨separates, below⟩ := separates_narrow k (by omega)
  exact ⟨⟨_, separates⟩, below⟩

theorem tenLog_spec (g : Int) :
    (2 : ℚ) ^ tenLog g ≤ 10 ^ g ∧ (10 : ℚ) ^ g < 2 ^ (tenLog g + 1) := by
  have spec := floorLog_spec (Nat.pow_pos (by decide) : 0 < Nat.pow 10 g.toNat)
    (Nat.pow_pos (by decide) : 0 < Nat.pow 10 (-g).toNat)
  push_cast [Nat.pow_eq] at spec
  rwa [pow_toNat_div] at spec

theorem tenRatio_den_pos (g : Int) : 0 < (tenRatio g).den :=
  Nat.mul_pos (Nat.pow_pos (by decide)) (Nat.two_pow_pos _)

theorem tenRatio_eq (g : Int) :
    ((tenRatio g).num / (tenRatio g).den : ℚ) = 10 ^ g / 2 ^ (tenLog g - 1) := by
  unfold tenRatio
  rw [Format.scaled_div]
  push_cast [Nat.pow_eq]
  rw [pow_toNat_div]

/-! ## Distances -/

/-- Two roundings to double of the one do not reach the other. -/
def Apart (v m : ℚ) : Prop := 25 * m ≤ 2 ^ 56 * |v - m|

theorem Apart.scale {v m u : ℚ} (positive : 0 < u) : Apart (v * u) (m * u) ↔ Apart v m := by
  unfold Apart
  rw [← sub_mul, abs_mul, abs_of_pos positive, ← mul_assoc, ← mul_assoc,
    mul_le_mul_iff_left₀ positive]

/-- What is read for a number is on the same side of what the number is apart from. -/
theorem Apart.sides {v m read : ℚ} (apart : Apart v m) (positive : 0 < m)
    (close : |read - v| ≤ v * (3 / 2 ^ 53)) : (v < m → read < m) ∧ (m < v → m < read) := by
  unfold Apart at apart
  obtain ⟨low, high⟩ := abs_le.mp close
  constructor
  · intro below
    rw [abs_of_neg (sub_neg.mpr below)] at apart
    linarith only [apart, high, positive]
  · intro above
    rw [abs_of_pos (sub_pos.mpr above)] at apart
    linarith only [apart, low, above, positive]

section Fractions

variable {b : Bracket} {r : Fraction} {g : Int} {numerator denominator : Nat} {α : ℚ}

/-- A distance of one over a small denominator is enough. -/
theorem Apart.of_gap (small : numerator < numBound) {den : Nat} (fits : den ≤ numBound) {v : ℚ}
    (gap : 1 ≤ |den * (v - numerator)|) : Apart v numerator := by
  have smallToo : (numerator : ℚ) < 2 ^ 25 := by exact_mod_cast small
  have fitsToo : (den : ℚ) ≤ 2 ^ 25 := by exact_mod_cast fits
  rw [abs_mul, Nat.abs_cast] at gap
  have atLeast := gap.trans (mul_le_mul_of_nonneg_right fitsToo (abs_nonneg _))
  unfold Apart
  linarith only [smallToo, atLeast]

/-- A fraction with a small numerator is not strictly between the two. -/
theorem Bracket.Tight.outside (tight : b.Tight) (small : numerator < numBound)
    (denominator : Nat) :
    numerator * b.low.den ≤ b.low.num * denominator ∨
      b.high.num * denominator ≤ numerator * b.high.den := by
  have neighbours := tight.neighbours
  have large := tight.large
  by_contra inside
  push Not at inside
  obtain ⟨aboveLow, belowHigh⟩ := inside
  have first := Nat.mul_le_mul_left b.high.num (Nat.succ_le_of_lt aboveLow)
  have second := Nat.mul_le_mul_left b.low.num (Nat.succ_le_of_lt belowHigh)
  have whole : b.high.num * (numerator * b.low.den) =
      b.low.num * (numerator * b.high.den) + numerator := by
    calc b.high.num * (numerator * b.low.den) = numerator * (b.high.num * b.low.den) := by ring
      _ = _ := by rw [neighbours]; ring
  have crossed : b.high.num * (b.low.num * denominator) =
      b.low.num * (b.high.num * denominator) := by ring
  rw [Nat.succ_eq_add_one, Nat.mul_add_one] at first second
  omega

/-- A fraction with a small numerator is one of the two, or it keeps a distance from what lies
between them. -/
theorem Bracket.Tight.meets (tight : b.Tight) (low : b.low.num ≤ α * b.low.den)
    (high : α * b.high.den ≤ b.high.num) (small : numerator < numBound) (denominator : Nat) :
    numerator * b.low.den = b.low.num * denominator ∨
      numerator * b.high.den = b.high.num * denominator ∨ Apart (denominator * α) numerator := by
  have nonnegative : (0 : ℚ) ≤ denominator := Nat.cast_nonneg denominator
  rcases tight.outside small denominator with below | above
  · rcases below.eq_or_lt with same | less
    · exact Or.inl same
    · refine Or.inr (Or.inr (Apart.of_gap small tight.lowFits (le_abs.mpr (Or.inl ?_))))
      have step : (numerator * b.low.den + 1 : ℚ) ≤ b.low.num * denominator := by
        exact_mod_cast less
      linarith only [step, mul_le_mul_of_nonneg_right low nonnegative]
  · rcases above.eq_or_lt with same | less
    · exact Or.inr (Or.inl same.symm)
    · refine Or.inr (Or.inr (Apart.of_gap small tight.highFits (le_abs.mpr (Or.inr ?_))))
      have step : (b.high.num * denominator + 1 : ℚ) ≤ numerator * b.high.den := by
        exact_mod_cast less
      linarith only [step, mul_le_mul_of_nonneg_right high nonnegative]

theorem Fraction.cast_above_add_above (r s : Fraction) :
    ((r.above s + s.above r : Nat) : ℚ) = |(r.num * s.den : ℚ) - s.num * r.den| := by
  unfold above
  rcases le_total (s.num * r.den) (r.num * s.den) with less | more
  · have order : (s.num * r.den : ℚ) ≤ r.num * s.den := by exact_mod_cast less
    rw [abs_of_nonneg (sub_nonneg.mpr order), Nat.sub_eq_zero_of_le less, add_zero,
      Nat.cast_sub less, Nat.cast_mul, Nat.cast_mul]
  · have order : (r.num * s.den : ℚ) ≤ s.num * r.den := by exact_mod_cast more
    rw [abs_of_nonpos (sub_nonpos.mpr order), Nat.sub_eq_zero_of_le more, zero_add,
      Nat.cast_sub more, Nat.cast_mul, Nat.cast_mul, neg_sub]

/-- A fraction that is clear of a power of ten, in other terms. -/
theorem Fraction.Clear.apart (clear : r.Clear g) (positive : 0 < r.den)
    (same : numerator * r.den = r.num * denominator) (nonzero : 0 < denominator) :
    denominator * (10 ^ g / 2 ^ (tenLog g - 1) : ℚ) = numerator ∧ -10 ≤ g ∧ g ≤ 10 ∨
      Apart (denominator * (10 ^ g / 2 ^ (tenLog g - 1))) numerator ∨
      tenLog g = -107 ∧ r = ⟨22841339, 7038531⟩ := by
  have denPositive : (0 : ℚ) < r.den := Nat.cast_pos.mpr positive
  have ratioPositive : (0 : ℚ) < (tenRatio g).den := Nat.cast_pos.mpr (tenRatio_den_pos g)
  have sameToo : (numerator * r.den : ℚ) = r.num * denominator := by exact_mod_cast same
  rw [← tenRatio_eq]
  rcases clear with far | ⟨meets, small⟩ | exception
  · have apart : Apart ((tenRatio g).num * r.den) (r.num * (tenRatio g).den) := by
      unfold Apart
      rw [← Fraction.cast_above_add_above]
      exact_mod_cast far
    have left : (tenRatio g).num * r.den * denominator =
        denominator * ((tenRatio g).num / (tenRatio g).den : ℚ) * ((tenRatio g).den * r.den) := by
      field_simp
    have right : (r.num * (tenRatio g).den * denominator : ℚ) =
        numerator * ((tenRatio g).den * r.den) := by
      linear_combination (-(tenRatio g).den : ℚ) * sameToo
    rw [← Apart.scale (Nat.cast_pos.mpr nonzero : (0 : ℚ) < denominator), left, right,
      Apart.scale (mul_pos ratioPositive denPositive)] at apart
    exact Or.inr (Or.inl apart)
  · refine Or.inl ⟨?_, small⟩
    have meetsToo : (r.num * (tenRatio g).den : ℚ) = (tenRatio g).num * r.den := by
      exact_mod_cast meets
    field_simp
    rw [← mul_left_inj' denPositive.ne']
    linear_combination (-denominator : ℚ) * meetsToo - (tenRatio g).den * sameToo
  · exact Or.inr (Or.inr exception)

/-- A multiple of a power of ten is an integer with few bits, or it keeps a distance from it, or the
two make up the one fraction that comes closer. -/
theorem Bracket.Separates.eq_or_apart (separates : b.Separates g) (small : numerator < numBound)
    (nonzero : 0 < denominator) :
    denominator * (10 ^ g / 2 ^ (tenLog g - 1) : ℚ) = numerator ∧ -10 ≤ g ∧ g ≤ 10 ∨
      Apart (denominator * (10 ^ g / 2 ^ (tenLog g - 1))) numerator ∨
      tenLog g = -107 ∧ numerator * 7038531 = 22841339 * denominator := by
  have ratioPositive : (0 : ℚ) < (tenRatio g).den := Nat.cast_pos.mpr (tenRatio_den_pos g)
  have low : (b.low.num : ℚ) ≤ 10 ^ g / 2 ^ (tenLog g - 1) * b.low.den := by
    rw [← tenRatio_eq, div_mul_eq_mul_div, le_div_iff₀ ratioPositive]
    exact_mod_cast separates.low
  have high : 10 ^ g / 2 ^ (tenLog g - 1) * b.high.den ≤ (b.high.num : ℚ) := by
    rw [← tenRatio_eq, div_mul_eq_mul_div, div_le_iff₀ ratioPositive]
    exact_mod_cast separates.high
  -- which of the two fractions it is, and what its being clear says
  have of_clear {r : Fraction} (clear : r.Clear g) (positive : 0 < r.den)
      (same : numerator * r.den = r.num * denominator) :
      denominator * (10 ^ g / 2 ^ (tenLog g - 1) : ℚ) = numerator ∧ -10 ≤ g ∧ g ≤ 10 ∨
        Apart (denominator * (10 ^ g / 2 ^ (tenLog g - 1))) numerator ∨
        tenLog g = -107 ∧ numerator * 7038531 = 22841339 * denominator := by
    refine (clear.apart positive same nonzero).imp_right (Or.imp_right fun exception => ?_)
    obtain ⟨log, rfl⟩ := exception
    exact ⟨log, same⟩
  rcases separates.tight.meets low high small denominator with same | same | apart
  · exact of_clear separates.lowClear separates.tight.lowPositive same
  · exact of_clear separates.highClear separates.tight.highPositive same
  · exact Or.inr (Or.inl apart)

end Fractions

/-! ## Decimals and halfway points -/

section Decimals

variable {g q : Int} {digits numerator : Nat}

/-- The fraction of the exception is in lowest terms and its denominator is odd. -/
theorem exception_eq {shift : Nat} (numPositive : 0 < numerator) (small : numerator < numBound)
    (same : numerator * 7038531 = 22841339 * (digits * 2 ^ shift)) :
    shift = 0 ∧ numerator = 22841339 := by
  have coprime : Nat.Coprime 22841339 7038531 := by decide
  obtain ⟨k, rfl⟩ := coprime.dvd_of_dvd_mul_right ⟨_, same⟩
  obtain rfl : k = 1 := by
    have bound : numBound = 33554432 := by decide
    omega
  have odd : digits * 2 ^ shift = 7038531 := by omega
  refine ⟨?_, rfl⟩
  cases shift with
  | zero => rfl
  | succ n =>
    rw [pow_succ, ← mul_assoc] at odd
    omega

/-- A decimal whose last place is no finer than a power of two, and a multiple of half that power
with few bits. -/
theorem eq_or_apart (least : -53 ≤ g) (most : g ≤ 38) (positive : 0 < digits)
    (numPositive : 0 < numerator) (small : numerator < numBound) (coarse : (2 : ℚ) ^ q ≤ 10 ^ g) :
    digits * 10 ^ g = (numerator * 2 ^ (q - 1) : ℚ) ∧ -10 ≤ g ∧ g ≤ 10 ∨
      Apart (digits * 10 ^ g) (numerator * 2 ^ (q - 1)) ∨
      q = -107 ∧ numerator = 22841339 := by
  obtain ⟨⟨b, separates⟩, -⟩ := exists_separates least most
  have order : q < tenLog g + 1 := two_zpow_lt.mp (coarse.trans_lt (tenLog_spec g).2)
  obtain ⟨shift, shift_eq⟩ : ∃ shift : Nat, tenLog g = q + shift :=
    ⟨(tenLog g - q).toNat, by omega⟩
  have split : (digits * 10 ^ g : ℚ) =
      (digits * 2 ^ shift : Nat) * (10 ^ g / 2 ^ (tenLog g - 1)) * 2 ^ (q - 1) := by
    have exponent : tenLog g - 1 = shift + (q - 1) := by omega
    rw [exponent, two_zpow_add, zpow_natCast]
    push_cast
    field_simp
  have unit := two_zpow_pos (q - 1)
  have nonzero : 0 < digits * 2 ^ shift := Nat.mul_pos positive (Nat.two_pow_pos _)
  rw [split, mul_left_inj' unit.ne', Apart.scale unit]
  refine (separates.eq_or_apart small nonzero).imp_right (Or.imp_right fun exception => ?_)
  obtain ⟨rfl, numerator_eq⟩ := exception_eq numPositive small exception.2
  exact ⟨by omega, numerator_eq⟩

/-- A power of ten below a power of two is not too close to it. -/
theorem ten_zpow_le (least : -53 ≤ g) (most : g ≤ 38) (fine : (10 : ℚ) ^ g < 2 ^ q) :
    (10 : ℚ) ^ g ≤ (1 - 1 / 2 ^ 25) * 2 ^ q := by
  obtain ⟨-, below⟩ := exists_separates least most
  have order : tenLog g < q := two_zpow_lt.mp ((tenLog_spec g).1.trans_lt fine)
  have ratioPositive : (0 : ℚ) < (tenRatio g).den := Nat.cast_pos.mpr (tenRatio_den_pos g)
  have unit := two_zpow_pos (tenLog g - 1)
  have ratio : (10 ^ g / 2 ^ (tenLog g - 1) : ℚ) ≤ (1 - 1 / 2 ^ 25) * 4 := by
    have belowToo : (numBound * (tenRatio g).num : ℚ) ≤
        (numBound - 1 : Nat) * (4 * (tenRatio g).den) := by exact_mod_cast below
    rw [← tenRatio_eq, div_le_iff₀ ratioPositive]
    norm_num [numBound] at belowToo ⊢
    linarith only [belowToo]
  rw [div_le_iff₀ unit] at ratio
  refine ratio.trans ?_
  have binade : (4 * 2 ^ (tenLog g - 1) : ℚ) = 2 ^ (tenLog g + 1) := by
    have exponent : tenLog g + 1 = 2 + (tenLog g - 1) := by ring
    rw [exponent, two_zpow_add]
    norm_num
  rw [mul_assoc, binade]
  exact mul_le_mul_of_nonneg_left (two_zpow_le.mpr order) (by norm_num)

/-- A decimal that is within half a unit of its last place of a number, and a multiple with few bits
that is half a power of two from that number. -/
theorem eq_or_apart_of_near (least : -53 ≤ g) (most : g ≤ 38) (positive : 0 < digits)
    (numPositive : 0 < numerator) (small : numerator < numBound) {x : ℚ}
    (near : |2 * (digits * 10 ^ g - x)| ≤ 10 ^ g)
    (half : |x - numerator * 2 ^ (q - 1)| = 2 ^ (q - 1)) :
    digits * 10 ^ g = (numerator * 2 ^ (q - 1) : ℚ) ∧ -10 ≤ g ∧ g ≤ 10 ∨
      Apart (digits * 10 ^ g) (numerator * 2 ^ (q - 1)) ∨
      q = -107 ∧ numerator = 22841339 := by
  rcases le_or_gt ((2 : ℚ) ^ q) (10 ^ g) with coarse | fine
  · exact eq_or_apart least most positive numPositive small coarse
  · refine Or.inr (Or.inl ?_)
    have unit := two_zpow_pos (q - 1)
    have double : (2 : ℚ) ^ q = 2 * 2 ^ (q - 1) := by
      rw [← zpow_one_add₀ two_ne_zero, add_sub_cancel]
    have step := ten_zpow_le least most fine
    have triangle := abs_sub_le x (digits * 10 ^ g) (numerator * 2 ^ (q - 1))
    have smallToo : (numerator : ℚ) < 2 ^ 25 := by exact_mod_cast small
    have atMost := mul_le_mul_of_nonneg_right smallToo.le unit.le
    rw [abs_mul, abs_two, abs_sub_comm] at near
    rw [half] at triangle
    rw [double] at step
    unfold Apart
    linarith only [near, triangle, step, atMost, unit]

end Decimals

end InCallProximity.Binary
