import InCallProximity.Proofs.Binary.Rounding
import Mathlib.Algebra.Order.Archimedean.Basic

/-!
# Rounding is to nearest

Which value is nearest to a fraction is said without rounding: none of the others is nearer, and of
two equally near ones it is the even one (`Format.IsNearest`). There is one such value, and a larger
fraction has no smaller one (`Format.IsNearest.le_of_le`). Rounding finds it for every fraction
(`Format.isNearest_round`), so rounding keeps the order, and keeps integers of few bits apart.
-/

namespace InCallProximity.Binary

/-! ## Nearer and farther -/

section Distances

variable {a b r : ℚ}

/-- How much farther one of two points is, in squares. -/
theorem sq_sub_sq_distance : (r - b) ^ 2 - (r - a) ^ 2 = (b - a) * (a + b - 2 * r) := by ring

/-- What is nearer to the left one of two points lies before their middle. -/
theorem nearer_left_iff (less : a < b) : |r - a| < |r - b| ↔ 2 * r < a + b := by
  rw [← sq_lt_sq, ← sub_pos, sq_sub_sq_distance, mul_pos_iff_of_pos_left (sub_pos.mpr less),
    sub_pos]

theorem nearer_right_iff (less : a < b) : |r - b| < |r - a| ↔ a + b < 2 * r := by
  rw [← sq_lt_sq, ← sub_neg, sq_sub_sq_distance, mul_neg_iff, sub_neg, sub_pos, sub_neg]
  exact ⟨fun cases => (cases.resolve_right fun other => other.1.not_gt less).2,
    fun after => Or.inl ⟨less, after⟩⟩

theorem equally_near_iff (less : a < b) : |r - a| = |r - b| ↔ 2 * r = a + b := by
  rw [← sq_eq_sq_iff_abs_eq_abs, ← sub_eq_zero, ← neg_eq_zero, neg_sub, sq_sub_sq_distance,
    mul_eq_zero_iff_left (sub_pos.mpr less).ne', sub_eq_zero, eq_comm]

end Distances

namespace Format

/-- The code of the value nearest to a fraction, and the even one of two that are equally near.
Infinity is taken for the value that would come after the largest finite one. -/
structure IsNearest (f : Format) (r : ℚ) (code : Nat) : Prop where
  le_infinity : code ≤ f.infinity
  nearer : ∀ other ≤ f.infinity, other ≠ code →
    |r - f.value code| < |r - f.value other| ∨
      |r - f.value code| = |r - f.value other| ∧ code % 2 = 0

variable {f : Format} {r s : ℚ} {code other : Nat}

/-! ## The nearest value -/

/-- What has a nearest value lies after the middle between it and any smaller one. -/
theorem IsNearest.after_middle (nearest : f.IsNearest r code) (less : other < code) :
    f.value other + f.value code < 2 * r ∨
      2 * r = f.value other + f.value code ∧ code % 2 = 0 := by
  have below := f.value_strictMono less
  have nearer := nearest.nearer other (less.le.trans nearest.le_infinity) less.ne
  rwa [nearer_right_iff below, eq_comm, equally_near_iff below] at nearer

theorem IsNearest.before_middle (nearest : f.IsNearest r code) (more : code < other)
    (atMost : other ≤ f.infinity) :
    2 * r < f.value code + f.value other ∨
      2 * r = f.value code + f.value other ∧ code % 2 = 0 := by
  have above := f.value_strictMono more
  have nearer := nearest.nearer other atMost more.ne'
  rwa [nearer_left_iff above, equally_near_iff above] at nearer

/-- Larger fractions have no smaller nearest values. -/
theorem IsNearest.le_of_le (nearest : f.IsNearest r code) (nearestToo : f.IsNearest s other)
    (le : r ≤ s) : code ≤ other := by
  by_contra more
  rw [not_le] at more
  -- otherwise both fractions are the middle of the two values
  rcases nearest.after_middle more with after | ⟨middle, even⟩ <;>
    rcases nearestToo.before_middle more nearest.le_infinity with before | ⟨middleToo, evenToo⟩
  · linarith
  · linarith
  · linarith
  · -- and as these are even, an odd one stands between them that is nearer
    have between : other + 1 < code := by omega
    have after := nearest.after_middle between
    have above := f.value_lt_succ other
    have same : r = s := by linarith
    rcases after with after | ⟨same, -⟩ <;> linarith

theorem IsNearest.unique (nearest : f.IsNearest r code) (nearestToo : f.IsNearest r other) :
    code = other :=
  le_antisymm (nearest.le_of_le nearestToo le_rfl) (nearestToo.le_of_le nearest le_rfl)

/-! ## Rounding -/

/-- There are values beyond every fraction. -/
theorem exists_value_gt (f : Format) (r : ℚ) : ∃ code, r < f.value code := by
  obtain ⟨code, more⟩ := exists_nat_gt (r / 2 ^ f.leastExponent)
  refine ⟨code, ((div_lt_iff₀ (two_zpow_pos _)).mp more).trans_le ?_⟩
  have strictMono : StrictMono f.units := by
    intro a b less
    have less := f.value_strictMono less
    rw [value, value, mul_lt_mul_iff_left₀ (two_zpow_pos _)] at less
    exact_mod_cast less
  refine mul_le_mul_of_nonneg_right ?_ (two_zpow_pos _).le
  exact_mod_cast strictMono.le_apply

/-- A code is nearest if none of the values on either side is nearer. -/
theorem IsNearest.of_sides (atMost : code ≤ f.infinity)
    (after : ∀ other < code, f.value other + f.value code < 2 * r ∨
      2 * r = f.value other + f.value code ∧ code % 2 = 0)
    (before : ∀ other ≤ f.infinity, code < other → 2 * r < f.value code + f.value other ∨
      2 * r = f.value code + f.value other ∧ code % 2 = 0) : f.IsNearest r code := by
  refine ⟨atMost, fun other fits differs => ?_⟩
  rcases Nat.lt_or_gt_of_ne differs with less | more
  · have below := f.value_strictMono less
    rw [nearer_right_iff below, eq_comm, equally_near_iff below]
    exact after other less
  · have above := f.value_strictMono more
    rw [nearer_left_iff above, equally_near_iff above]
    exact before other fits more

/-- The lower one of two neighbours is nearest up to the middle. -/
theorem IsNearest.of_low (atMost : code ≤ f.infinity) (low : f.value code ≤ r)
    (close : 2 * r < f.value code + f.value (code + 1) ∨
      2 * r = f.value code + f.value (code + 1) ∧ code % 2 = 0) : f.IsNearest r code := by
  refine .of_sides atMost (fun other less => Or.inl ?_) fun other _ more => ?_
  · have below := f.value_strictMono less
    linarith
  · rcases Nat.eq_or_lt_of_le more with rfl | beyond
    · exact close
    · have above := f.value_strictMono beyond
      have le : 2 * r ≤ f.value code + f.value (code + 1) := close.elim le_of_lt (·.1.le)
      exact Or.inl (by linarith)

/-- The upper one of two neighbours is nearest from the middle on. -/
theorem IsNearest.of_high (atMost : code + 1 ≤ f.infinity) (high : r < f.value (code + 1))
    (close : f.value code + f.value (code + 1) < 2 * r ∨
      2 * r = f.value code + f.value (code + 1) ∧ (code + 1) % 2 = 0) :
    f.IsNearest r (code + 1) := by
  refine .of_sides atMost (fun other less => ?_) fun other _ more => Or.inl ?_
  · rcases Nat.eq_or_lt_of_le (Nat.le_of_lt_succ less) with rfl | below
    · exact close
    · have below := f.value_strictMono below
      have le : f.value code + f.value (code + 1) ≤ 2 * r := close.elim le_of_lt (·.1.ge)
      exact Or.inl (by linarith)
  · have above := f.value_strictMono more
    linarith

/-- Rounding gives the nearest value. -/
theorem isNearest_round (fractional : 0 < f.fractionBits) (num : Nat) {den : Nat}
    (positive : 0 < den) : f.IsNearest (num / den) (f.round num den) := by
  have nonnegative : (0 : ℚ) ≤ num / den := by positivity
  obtain ⟨bound, less⟩ := f.exists_value_gt (num / den)
  obtain ⟨code, -, low, high⟩ := f.exists_between nonnegative less
  rcases Nat.lt_or_ge code f.infinity with finite | beyond
  · rw [f.round_between fractional finite positive low high]
    split_ifs with before after even
    · exact .of_low finite.le low (Or.inl before)
    · exact .of_high finite high (Or.inl after)
    · exact .of_low finite.le low (Or.inr ⟨by linarith, even⟩)
    · exact .of_high finite high (Or.inr ⟨by linarith, by omega⟩)
  · have top : f.round num den = f.infinity := by
      rw [f.round_between_min fractional positive low high]
      refine min_eq_left ?_
      split_ifs <;> omega
    rw [top]
    refine .of_sides le_rfl (fun other less => Or.inl ?_) fun other atMost more => ?_
    · have below := f.value_strictMono less
      have reached := f.value_strictMono.monotone beyond
      linarith
    · omega

/-- Rounding keeps the order. -/
theorem round_le_round (fractional : 0 < f.fractionBits) {num den numToo denToo : Nat}
    (positive : 0 < den) (positiveToo : 0 < denToo) (le : (num / den : ℚ) ≤ numToo / denToo) :
    f.round num den ≤ f.round numToo denToo :=
  (isNearest_round fractional num positive).le_of_le
    (isNearest_round fractional numToo positiveToo) le

/-! ## Integers -/

/-- Integers of few bits are values. -/
theorem value_round_of_few (fractional : 0 < f.fractionBits) (integers : f.leastExponent ≤ 0)
    {n : Nat} (few : n ≤ 2 * f.binade) (finite : (n : ℚ) < f.value f.infinity) :
    f.value (f.round n 1) = n := by
  obtain ⟨code, value⟩ := exists_value few integers
  rw [zpow_zero, mul_one] at value
  have below : code < f.infinity := f.value_strictMono.lt_iff_lt.mp (value ▸ finite)
  have same : ((n : Nat) / (1 : Nat) : ℚ) = f.value code := by rw [Nat.cast_one, div_one, value]
  rw [round_value fractional below one_pos same, value]

end Format

namespace Value

variable {f : Format} {i j : Int}

theorem isNaN_ofInt (f : Format) (i : Int) : (ofInt f i).isNaN = false := by
  have atMost : f.round i.natAbs 1 ≤ f.infinity := by
    unfold Format.round
    split
    · exact Nat.zero_le _
    · exact Nat.min_le_left ..
  exact decide_eq_false atMost.not_gt

theorem rank_ofInt_of_nonneg (nonnegative : 0 ≤ i) :
    (ofInt f i).rank = f.round i.natAbs 1 := if_neg (by simpa [ofInt] using nonnegative)

theorem rank_ofInt_of_neg (isNegative : i < 0) :
    (ofInt f i).rank = -(f.round i.natAbs 1 : Int) := if_pos (decide_eq_true isNegative)

theorem natAbs_rank_ofInt : (ofInt f i).rank.natAbs = f.round i.natAbs 1 := by
  rcases lt_or_ge i 0 with isNegative | nonnegative
  · rw [rank_ofInt_of_neg isNegative, Int.natAbs_neg, Int.natAbs_natCast]
  · rw [rank_ofInt_of_nonneg nonnegative, Int.natAbs_natCast]

/-- Conversion keeps the order of integers. -/
theorem rank_ofInt_le (fractional : 0 < f.fractionBits) (le : i ≤ j) :
    (ofInt f i).rank ≤ (ofInt f j).rank := by
  have rounds : ∀ {m n : Nat}, m ≤ n → f.round m 1 ≤ f.round n 1 := by
    intro m n le
    refine Format.round_le_round fractional one_pos one_pos ?_
    rw [Nat.cast_one, div_one, div_one]
    exact_mod_cast le
  rcases lt_or_ge i 0 with isNegative | nonnegative
  · rw [rank_ofInt_of_neg isNegative]
    rcases lt_or_ge j 0 with isNegativeToo | nonnegativeToo
    · have := rounds (show j.natAbs ≤ i.natAbs by omega)
      rw [rank_ofInt_of_neg isNegativeToo]
      omega
    · rw [rank_ofInt_of_nonneg nonnegativeToo]
      omega
  · have := rounds (show i.natAbs ≤ j.natAbs by omega)
    rw [rank_ofInt_of_nonneg nonnegative, rank_ofInt_of_nonneg (nonnegative.trans le)]
    omega

/-- Conversion keeps integers apart that are values. -/
theorem rank_ofInt_lt (fractional : 0 < f.fractionBits)
    (isValue : f.value (f.round i.natAbs 1) = i.natAbs)
    (isValueToo : f.value (f.round j.natAbs 1) = j.natAbs) (less : i < j) :
    (ofInt f i).rank < (ofInt f j).rank := by
  refine lt_of_le_of_ne (rank_ofInt_le fractional less.le) fun same => ?_
  have sameCode : f.round i.natAbs 1 = f.round j.natAbs 1 := by
    rw [← natAbs_rank_ofInt, ← natAbs_rank_ofInt, same]
  have sameAbs : i.natAbs = j.natAbs := by
    rw [sameCode, isValueToo] at isValue
    exact_mod_cast isValue.symm
  -- so they differ in their signs, which only zero does not tell
  rw [rank_ofInt_of_neg (by omega), rank_ofInt_of_nonneg (by omega), ← sameAbs] at same
  have zero : f.round i.natAbs 1 = 0 := by omega
  rw [zero, f.value_zero] at isValue
  have : i.natAbs = 0 := by exact_mod_cast isValue.symm
  omega

end Value

end InCallProximity.Binary
