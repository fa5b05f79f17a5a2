import InCallProximity.Proofs.Binary.Separation
import InCallProximity.Proofs.Binary.Shortest
import InCallProximity.Proofs.Json.Doubles

/-!
# Decimals read back as singles

A decimal is read as a double, with a small error, and the double is rounded to a single. That is
the single which the decimal itself is rounded to unless the error crosses a halfway point. The
decimals that are written keep apart from these, and if one is such a point then it is a double and
read without an error (`Literal.convert_magnitude`).
-/

namespace InCallProximity

open Binary

namespace Binary

/-- Numbers that are apart are different. -/
theorem Apart.ne {v m : ℚ} (apart : Apart v m) (positive : 0 < m) : v ≠ m := by
  rintro rfl
  unfold Apart at apart
  rw [sub_self, abs_zero, mul_zero] at apart
  linarith

namespace Format

variable {f : Format} {code : Nat}

/-- The point halfway between a value and the next one. -/
def halfway (f : Format) (code : Nat) : ℚ := (f.value code + f.value (code + 1)) / 2

theorem halfway_eq (f : Format) (code : Nat) :
    f.halfway code =
      (2 * f.mantissa code + 1 : Nat) * 2 ^ (f.leastExponent + f.level code - 1) := by
  rw [halfway, value_eq, value_succ, zpow_sub_one₀ two_ne_zero]
  push_cast
  ring

theorem halfway_pos (f : Format) (code : Nat) : 0 < f.halfway code := by
  rw [halfway_eq]
  exact mul_pos (Nat.cast_pos.mpr (Nat.succ_pos _)) (two_zpow_pos _)

theorem halfway_sub_value (f : Format) (code : Nat) :
    f.halfway code - f.value code = 2 ^ (f.leastExponent + f.level code - 1) := by
  have gap := f.value_succ_sub code
  rw [halfway, zpow_sub_one₀ two_ne_zero, ← gap]
  ring

theorem value_succ_sub_halfway (f : Format) (code : Nat) :
    f.value (code + 1) - f.halfway code = f.halfway code - f.value code := by
  rw [halfway]
  ring

/-- What is read for a number that is rounded to a code is rounded to it too. -/
theorem Holds.of_read {v read : ℚ} (holds : f.Holds code v) (close : |read - v| ≤ v * (3 / 2 ^ 53))
    (lower : v = f.halfway code ∧ read = v ∨ Apart v (f.halfway code))
    (upper : v = f.halfway (code + 1) ∧ read = v ∨ Apart v (f.halfway (code + 1))) :
    f.Holds code read := by
  have low_eq : f.halfway code = (f.value code + f.value (code + 1)) / 2 := rfl
  have high_eq : f.halfway (code + 1) = (f.value (code + 1) + f.value (code + 2)) / 2 := rfl
  constructor
  · rcases lower with ⟨-, rfl⟩ | apart
    · exact holds.low
    · have positive := f.halfway_pos code
      rcases holds.low with less | ⟨same, -⟩
      · have above := (apart.sides positive close).2 (by linarith)
        exact Or.inl (by linarith)
      · exact absurd (by linarith) (apart.ne positive)
  · rcases upper with ⟨-, rfl⟩ | apart
    · exact holds.high
    · have positive := f.halfway_pos (code + 1)
      rcases holds.high with more | ⟨same, -⟩
      · have below := (apart.sides positive close).1 (by linarith)
        exact Or.inl (by linarith)
      · exact absurd (by linarith) (apart.ne positive)

end Format

end Binary

namespace Json.Literal

/-- The single after this code is as far from its lower neighbour as from its upper one, and it is
none of the two beside the one halfway point that a decimal comes too close to. -/
structure Regular (code : Nat) : Prop where
  even : Format.single.level (code + 1) = Format.single.level code
  lower : ¬(Format.single.level code = 42 ∧ 2 * Format.single.mantissa code + 1 = 22841339)
  upper : ¬(Format.single.level code = 42 ∧ 2 * Format.single.mantissa code + 3 = 22841339)

variable {code : Nat}

/-- The number is a double. -/
def IsDouble (v : ℚ) : Prop :=
  ∃ numerator : Nat, ∃ exponent : Int, numerator ≤ 2 ^ 53 ∧ -1074 ≤ exponent ∧
    v = numerator * 2 ^ exponent

theorem Regular.mantissa_succ (regular : Regular code) :
    Format.single.mantissa (code + 1) = Format.single.mantissa code + 1 := by
  have here := Format.single.level_mul_add_mantissa code
  have next := Format.single.level_mul_add_mantissa (code + 1)
  rw [regular.even] at next
  omega

/-- The halfway points around a regular single, and its distance to them. -/
theorem Regular.halfway (regular : Regular code) {m : ℚ}
    (around : m = Format.single.halfway code ∨ m = Format.single.halfway (code + 1)) :
    ∃ numerator : Nat, 0 < numerator ∧ numerator < numBound ∧
      m = numerator * 2 ^ (Format.single.leastExponent + Format.single.level code - 1) ∧
      |Format.single.value (code + 1) - m| =
        2 ^ (Format.single.leastExponent + Format.single.level code - 1) ∧
      ¬(Format.single.level code = 42 ∧ numerator = 22841339) := by
  have mantissa := Format.single.mantissa_lt (code + 1)
  rw [regular.mantissa_succ, Format.single_binade] at mantissa
  have bound : numBound = 33554432 := by decide
  have unit := two_zpow_pos (Format.single.leastExponent + Format.single.level code - 1)
  rcases around with rfl | rfl
  · refine ⟨_, Nat.succ_pos _, by omega, Format.halfway_eq _ _, ?_, regular.lower⟩
    rw [Format.value_succ_sub_halfway, Format.halfway_sub_value, abs_of_pos unit]
  · refine ⟨_, Nat.succ_pos _, ?_, regular.even ▸ Format.halfway_eq _ _, ?_, ?_⟩
    · rw [regular.mantissa_succ]
      omega
    · rw [abs_sub_comm, Format.halfway_sub_value, regular.even, abs_of_pos unit]
    · rw [regular.mantissa_succ]
      exact regular.upper

section Best

variable {grid stripped : Decimal} (regular : Regular code)
  (selected : Format.Selected code grid stripped)
include regular selected

/-- The decimal that is selected for a regular single, and the halfway points around it. -/
theorem Regular.eq_or_apart {m : ℚ}
    (around : m = Format.single.halfway code ∨ m = Format.single.halfway (code + 1)) :
    grid.value = m ∧ IsDouble grid.value ∧ -10 ≤ grid.exponent ∧ grid.exponent ≤ 10 ∨
      Apart grid.value m := by
  obtain ⟨numerator, numPositive, small, rfl, half, unexceptional⟩ := regular.halfway around
  have spacing : Format.single.value (code + 1) - Format.single.value code =
      Format.single.value (code + 2) - Format.single.value (code + 1) := by
    rw [Format.value_succ_sub, Format.value_succ_sub, regular.even]
  have separated := eq_or_apart_of_near selected.least selected.most selected.positive
    numPositive small (selected.best.near spacing) half
  rcases separated with ⟨same, bounds⟩ | apart | ⟨level, numerator_eq⟩
  · refine Or.inl ⟨same, ⟨numerator, _, ?_, ?_, same⟩, bounds⟩
    · have bound : numBound ≤ 2 ^ 53 := by decide
      exact small.le.trans bound
    · rw [Format.single_leastExponent]
      omega
  · exact Or.inr apart
  · rw [Format.single_leastExponent] at level
    exact absurd ⟨by omega, numerator_eq⟩ unexceptional

/-- The decimal of a regular single is read back, from any significand and power that make it. -/
theorem convert_magnitude (finite : code + 1 < Format.single.infinity) {significand : Nat}
    {power : Int} (same : significand * 10 ^ power = stripped.value) (fits : significand ≤ 2 ^ 53)
    (powers : power = -1 ∨ power = stripped.exponent) :
    (magnitude? significand power).map (Format.convert .double .single) = some (code + 1) := by
  have least := selected.least
  have most := selected.most
  have exponent := selected.exponent
  have fewZeros := selected.fewZeros
  rw [selected.value] at same
  have step : (0 : ℚ) < 10 ^ grid.exponent := zpow_pos (by norm_num) _
  have positive : 0 < grid.value := mul_pos (Nat.cast_pos.mpr selected.positive) step
  have significandPositive : 0 < significand := by
    refine Nat.pos_of_ne_zero fun zero => ?_
    rw [zero, Nat.cast_zero, zero_mul] at same
    exact positive.ne same
  obtain ⟨read, reads, close⟩ :=
    exists_magnitude significandPositive fits (by omega : -60 ≤ power) (by omega)
  rw [same] at close
  -- a decimal that is halfway itself is read without an error
  have exact_of_double (double : IsDouble grid.value)
      (bounds : -10 ≤ grid.exponent ∧ grid.exponent ≤ 10) :
      Format.double.value read = grid.value := by
    obtain ⟨numerator, exponent, numFits, exponentLeast, value_eq⟩ := double
    have below : (numerator * 2 ^ exponent : ℚ) < 2 ^ (250 : Int) := by
      have next := Format.single.value_strictMono.monotone (show code + 2 ≤ _ from finite)
      have here := Format.single.value_strictMono finite
      rw [Format.single_value_infinity] at next here
      rw [← value_eq]
      have large : (2 : ℚ) ^ (128 : Int) < 2 ^ (250 : Int) := two_zpow_lt.mpr (by decide)
      rcases selected.best.holds.high with less | ⟨equal, -⟩ <;> linarith
    obtain ⟨double, doubleFinite, doubleValue⟩ := exists_double numFits exponentLeast below
    rw [← value_eq] at doubleValue
    have readsExactly := exists_magnitude_exact fits (by omega : -22 ≤ power) (by omega)
      doubleFinite (same.trans doubleValue.symm)
    rw [reads, Option.some_inj] at readsExactly
    rw [readsExactly, doubleValue]
  have holds : Format.single.Holds code (Format.double.value read) := by
    refine selected.best.holds.of_read close ?_ ?_
    · exact (Regular.eq_or_apart regular selected (Or.inl rfl)).imp_left
        fun ⟨tie, double, bounds⟩ => ⟨tie, exact_of_double double bounds⟩
    · exact (Regular.eq_or_apart regular selected (Or.inr rfl)).imp_left
        fun ⟨tie, double, bounds⟩ => ⟨tie, exact_of_double double bounds⟩
  obtain ⟨num, den, denPositive, converts, ratio⟩ := Format.convert_eq_round .double .single read
  rw [← ratio] at holds
  rw [reads, Option.map_some, converts,
    Format.round_eq (by decide) finite denPositive holds.low holds.high]

end Best

end Json.Literal

end InCallProximity
