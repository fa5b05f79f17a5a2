import InCallProximity.Proofs.Json.Decimals
import InCallProximity.Proofs.Json.Singles
import InCallProximity.Proofs.Wire.RoundTrip

/-!
# Finite samples survive the wire

A distance is written with the shortest digits of its single. The layout of the digits depends on
the place of the point, and each of the four is a literal for the same decimal
(`Decimal.spells_onWireText`). The shortest digits of a single are read back as that single
(`reread?_shortest`): those of a regular one keep apart from halfway points, and the others are few
enough to try each of them. So a sample of finite numbers is decoded to itself
(`finite_samples_decode_back`).
-/

namespace InCallProximity

open Binary Json

/-! ## Texts of decimals -/

namespace Binary.Decimal

/-- The place of the decimal point, counted from the first digit. -/
def point (d : Decimal) : Int := d.exponent + (Nat.toDigits 10 d.digits).length

/-- The significand and the power of ten that a written decimal is read as. Without an exponent a
whole number is followed by a point and one more zero. -/
def onWire (d : Decimal) : Nat × Int :=
  if 0 ≤ d.exponent ∧ d.exponent + (Nat.toDigits 10 d.digits).length ≤ wireLayout.plainUpTo then
    (d.digits * Nat.pow 10 (d.exponent.toNat + 1), -1)
  else (d.digits, d.exponent)

theorem onWire_eq (d : Decimal) :
    d.onWire = if 0 ≤ d.exponent ∧ d.point ≤ wireLayout.plainUpTo then
      (d.digits * Nat.pow 10 (d.exponent.toNat + 1), -1) else (d.digits, d.exponent) := rfl

/-- The text of a decimal in the layout of the wire. -/
def onWireText (d : Decimal) : List Char :=
  wireLayout.place (Nat.toDigits 10 d.digits) d.point

theorem onWire_of_fraction {d : Decimal} (fraction : d.exponent < 0) :
    d.onWire = (d.digits, d.exponent) :=
  if_neg fun whole => fraction.not_ge whole.1

/-- The padded digits are few. -/
theorem onWire_lt {d : Decimal} (positive : 0 < d.digits) (few : d.digits < 10 ^ 14) :
    d.onWire.1 < 10 ^ 14 := by
  unfold onWire
  split
  · next plain =>
    obtain ⟨whole, atMost⟩ := plain
    have plainUpTo : wireLayout.plainUpTo = 13 := rfl
    have digits := (ten_pow_length positive).2
    generalize (Nat.toDigits 10 d.digits).length = length at atMost digits
    have room : length + (d.exponent.toNat + 1) ≤ 14 := by omega
    calc d.digits * 10 ^ (d.exponent.toNat + 1) < 10 ^ length * 10 ^ (d.exponent.toNat + 1) :=
          Nat.mul_lt_mul_of_pos_right digits (Nat.pow_pos (by decide))
      _ = 10 ^ (length + (d.exponent.toNat + 1)) := (Nat.pow_add ..).symm
      _ ≤ 10 ^ 14 := Nat.pow_le_pow_right (by decide) room
  · exact few

theorem onWire_power (d : Decimal) : d.onWire.2 = -1 ∨ d.onWire.2 = d.exponent := by
  unfold onWire
  split
  · exact Or.inl rfl
  · exact Or.inr rfl

theorem onWire_value (d : Decimal) : (d.onWire.1 * 10 ^ d.onWire.2 : ℚ) = d.value := by
  unfold onWire
  split
  · next plain =>
    obtain ⟨n, n_eq⟩ := Int.eq_ofNat_of_zero_le plain.1
    rw [value, n_eq, Int.toNat_natCast, zpow_natCast, zpow_neg_one]
    push_cast [Nat.pow_eq]
    rw [pow_succ]
    ring
  · rfl

section Layouts

variable {d : Decimal} {c : Nat} {cs : List Nat} (negative : Bool)
  (writes : Writes (c :: cs) d.digits) (few : d.digits < 10 ^ 14)
include writes

theorem point_eq : d.point = d.exponent + (cs.length + 1 : Nat) := by
  rw [point, writes.text, List.length_map, List.length_cons]

include few

/-- Below one, zeros stand between the point and the digits. -/
theorem spells_below_one (above : -6 < d.point) (atMost : d.point ≤ 0) :
    Spells negative d.onWireText d.onWire := by
  obtain ⟨zeros, zeros_eq⟩ := Int.exists_eq_neg_ofNat atMost
  have point := point_eq writes
  have text : d.onWireText = [0].map Nat.digitChar ++ '.' ::
      (List.replicate zeros 0 ++ c :: cs).map Nat.digitChar := by
    unfold onWireText Layout.place
    rw [if_pos ⟨above, atMost.trans (by decide)⟩, if_pos atMost, writes.text, zeros_eq, neg_neg,
      Int.toNat_natCast, List.map_append, List.map_replicate]
    rfl
  have value : Literal.digitsValue ([0] ++ (List.replicate zeros 0 ++ c :: cs)) = d.digits := by
    rw [Literal.digitsValue_append, Literal.digitsValue_append, Literal.digitsValue_replicate_zero,
      writes.value]
    simp [Literal.digitsValue]
  have power : d.exponent = -((List.replicate zeros 0 ++ c :: cs).length : Int) := by
    rw [List.length_append, List.length_replicate, List.length_cons]
    omega
  rw [text, onWire_of_fraction (by omega), power, ← value]
  exact spells_plain (List.forall_mem_singleton.mpr (by decide)) (fun _ => rfl)
    (List.forall_mem_append.mpr ⟨Literal.small_replicate_zero zeros, writes.small⟩) (by simp)
    (value.trans_lt (few.trans (by decide)))

/-- With digits on both sides, the point stands among them. -/
theorem spells_among (above : 0 < d.point) (fraction : d.exponent < 0) (atMost : d.point ≤ 13)
    (nonzero : c ≠ 0) : Spells negative d.onWireText d.onWire := by
  have point := point_eq writes
  obtain ⟨before, before_eq⟩ : ∃ before : Nat, d.point = before + 1 :=
    ⟨(d.point - 1).toNat, by omega⟩
  have inside : before < cs.length := by omega
  have text : d.onWireText =
      (c :: cs.take before).map Nat.digitChar ++ '.' :: (cs.drop before).map Nat.digitChar := by
    have place : d.point.toNat = before + 1 := by omega
    unfold onWireText Layout.place
    rw [if_pos ⟨lt_trans (by decide) above, atMost⟩, if_neg above.not_ge, writes.text, place,
      ← List.map_take, ← List.map_drop, List.length_map, List.length_cons,
      Nat.sub_eq_zero_of_le (by omega : before + 1 ≤ cs.length + 1)]
    simp [inside]
  have value : Literal.digitsValue (c :: cs.take before ++ cs.drop before) = d.digits := by
    rw [List.cons_append, List.take_append_drop, writes.value]
  have power : d.exponent = -((cs.drop before).length : Int) := by
    rw [List.length_drop]
    omega
  have nonempty : cs.drop before ≠ [] := by
    rw [Ne, List.drop_eq_nil_iff]
    omega
  have small := writes.small
  rw [List.forall_mem_cons] at small
  rw [text, onWire_of_fraction fraction, power, ← value]
  refine spells_plain ?_ (fun zero => absurd zero nonzero) ?_ nonempty
    (value.trans_lt (few.trans (by decide)))
  · exact List.forall_mem_cons.mpr ⟨small.1, fun x among => small.2 x (List.mem_of_mem_take among)⟩
  · exact fun x among => small.2 x (List.mem_of_mem_drop among)

/-- A whole number is padded with zeros up to the point. -/
theorem spells_whole (whole : 0 ≤ d.exponent) (atMost : d.point ≤ 13) (positive : 0 < d.digits)
    (nonzero : c ≠ 0) : Spells negative d.onWireText d.onWire := by
  have point := point_eq writes
  obtain ⟨zeros, zeros_eq⟩ := Int.eq_ofNat_of_zero_le whole
  have above : 0 < d.point := by omega
  have text : d.onWireText =
      (c :: (cs ++ List.replicate zeros 0)).map Nat.digitChar ++ '.' :: [0].map Nat.digitChar := by
    have place : d.point.toNat = zeros + (cs.length + 1) := by omega
    unfold onWireText Layout.place
    rw [if_pos ⟨lt_trans (by decide) above, atMost⟩, if_neg above.not_ge, writes.text, place,
      ← List.map_take, ← List.map_drop, List.length_map, List.length_cons, Nat.add_sub_cancel,
      List.take_of_length_le (by simp), List.drop_of_length_le (by simp)]
    simp only [List.map_nil, List.isEmpty_nil, if_true, List.map_cons, List.map_append,
      List.map_replicate, List.cons_append]
    rfl
  have value : Literal.digitsValue (c :: (cs ++ List.replicate zeros 0) ++ [0]) =
      d.digits * Nat.pow 10 (zeros + 1) := by
    rw [Literal.digitsValue_append_singleton, ← List.cons_append, Literal.digitsValue_append,
      Literal.digitsValue_replicate_zero, writes.value, List.length_replicate, Nat.pow_eq, pow_succ]
    ring
  have scaled : d.onWire =
      (d.digits * Nat.pow 10 (zeros + 1), -(([0] : List Nat).length : Int)) := by
    rw [onWire_eq, if_pos ⟨whole, atMost⟩, zeros_eq]
    rfl
  have fits := onWire_lt positive few
  rw [scaled] at fits
  rw [text, scaled, ← value]
  refine spells_plain ?_ (fun zero => absurd zero nonzero)
    (List.forall_mem_singleton.mpr (by decide)) (List.cons_ne_nil 0 [])
    (value.trans_lt (fits.trans (by decide)))
  exact List.forall_mem_append.mpr ⟨writes.small, Literal.small_replicate_zero zeros⟩

/-- Very small and very large numbers have an exponent. -/
theorem spells_with_exponent
    (far : ¬(wireLayout.plainAbove < d.point ∧ d.point ≤ wireLayout.plainUpTo)) :
    Spells negative d.onWireText d.onWire := by
  have point := point_eq writes
  obtain ⟨x, xs, writesToo, -⟩ := exists_writes (d.point - 1).natAbs
  have text : d.onWireText =
      Nat.digitChar c :: (if cs.isEmpty then [] else '.' :: cs.map Nat.digitChar) ++
        'e' :: (if d.point - 1 < 0 then '-' else '+') :: (x :: xs).map Nat.digitChar := by
    have sign : (if d.point - 1 < 0 then ['-'] else wireLayout.plus) =
        [if d.point - 1 < 0 then '-' else '+'] := by
      split <;> rfl
    unfold onWireText Layout.place
    rw [if_neg far, writes.text, ← writesToo.text]
    simp only [sign, List.map_cons, List.take_succ_cons, List.take_zero, List.drop_succ_cons,
      List.drop_zero, List.isEmpty_map]
    rfl
  have scaled : d.onWire = (d.digits,
      (if d.point - 1 < 0 then -((d.point - 1).natAbs : Int) else (d.point - 1).natAbs) -
        cs.length) := by
    have above : wireLayout.plainAbove = -6 := rfl
    rw [onWire_eq, if_neg (by omega)]
    congr 1
    split <;> omega
  have spells := @spells_scientific negative _ _ _ _ (decide (d.point - 1 < 0)) writes.small
    writesToo.small (writes.value.trans_lt (few.trans (by decide)))
  rw [writes.value, writesToo.value] at spells
  rw [text, scaled]
  simpa only [decide_eq_true_eq] using spells

end Layouts

/-- The text of a decimal stands for the decimal. -/
theorem spells_onWireText (negative : Bool) {d : Decimal} (positive : 0 < d.digits)
    (few : d.digits < 10 ^ 14) : Spells negative d.onWireText d.onWire := by
  obtain ⟨c, cs, writes, leading⟩ := exists_writes d.digits
  have nonzero : c ≠ 0 := by
    rintro rfl
    rw [leading rfl] at writes
    exact positive.ne writes.value
  by_cases near : -6 < d.point ∧ d.point ≤ 13
  · rcases le_or_gt d.point 0 with belowOne | above
    · exact spells_below_one negative writes few near.1 belowOne
    · rcases lt_or_ge d.exponent 0 with fraction | whole
      · exact spells_among negative writes few above fraction near.2 nonzero
      · exact spells_whole negative writes few whole near.2 positive nonzero
  · exact spells_with_exponent negative writes few near

/-! ## Reading decimals back -/

/-- What a written decimal is read as, rounded to a single. -/
def reread? (d : Decimal) : Option Nat :=
  (Literal.magnitude? d.onWire.1 d.onWire.2).map (Format.convert .double .single)

end Binary.Decimal

namespace Binary

open Decimal

/-! ## Singles -/

/-- The codes that are not regular: the powers of two but for the least, and the two on either
side of the halfway point that a decimal comes too close to. -/
def irregular : List Nat :=
  363742205 :: 363742206 :: (List.range 253).map fun k => (k + 2) * 8388608

/-- The shortest digits of these are read back too, as trying each of them shows. -/
theorem reread?_irregular :
    ∀ code ∈ irregular, (Format.single.shortest .even code).reread? = some code := by
  decide +kernel

theorem regular_or_irregular {code : Nat} (finite : code + 1 < Format.single.infinity) :
    Literal.Regular code ∨ code + 1 ∈ irregular := by
  have infinity : Format.single.infinity = 2139095040 := by decide
  have binade : Format.single.binade = 8388608 := by decide
  have here := Format.single.level_mul_add_mantissa code
  simp only [irregular, List.mem_cons, List.mem_map, List.mem_range]
  by_cases even : Format.single.level (code + 1) = Format.single.level code
  · by_cases lower : Format.single.level code = 42 ∧
        2 * Format.single.mantissa code + 1 = 22841339
    · rw [lower.1] at here
      omega
    · by_cases upper : Format.single.level code = 42 ∧
          2 * Format.single.mantissa code + 3 = 22841339
      · rw [upper.1] at here
        omega
      · exact Or.inl ⟨even, lower, upper⟩
  · refine Or.inr (Or.inr (Or.inr ⟨(code + 1) / 8388608 - 2, ?_⟩))
    unfold Format.level at even
    rw [binade] at even
    omega

/-- The shortest digits of a single are read back as that single. -/
theorem reread?_shortest {code : Nat} (finite : code + 1 < Format.single.infinity) :
    (Format.single.shortest .even (code + 1)).reread? = some (code + 1) := by
  rcases regular_or_irregular finite with regular | irregular
  · obtain ⟨grid, selected⟩ := Format.exists_selected finite .even
    have few := onWire_lt selected.strippedPositive (selected.few.trans_lt (by decide))
    exact Literal.convert_magnitude regular selected finite (onWire_value _)
      (few.le.trans (by decide)) (onWire_power _)
  · exact reread?_irregular _ irregular

end Binary

/-! ## Distances and samples -/

namespace Single

/-- A written distance is a number that is read as that distance. -/
theorem exists_cuts_write {x : Single} (finite : x.isFinite = true) :
    ∃ read : Double, Cuts (x.write wireLayout) [.scalar (.number (some (.float read)))] ∧
      read.toSingle = x := by
  obtain ⟨negative, code⟩ := x
  have below : code < Format.single.infinity := of_decide_eq_true finite
  suffices spelled : ∃ text scaled, (Value.mk (f := .single) negative code).write wireLayout =
        (if negative then '-' :: text else text) ∧ Spells negative text scaled ∧
      (Literal.magnitude? scaled.1 scaled.2).map (Format.convert .double .single) = some code by
    obtain ⟨text, ⟨significand, power⟩, written, spells, reads⟩ := spelled
    obtain ⟨read, magnitude, converts⟩ := Option.map_eq_some_iff.mp reads
    refine ⟨⟨negative, read⟩, written ▸ spells.cuts magnitude, ?_⟩
    rw [Double.toSingle, converts]
  cases code with
  | zero =>
    have zero : ∀ c ∈ [0], c < 10 := List.forall_mem_singleton.mpr (by decide)
    exact ⟨['0', '.', '0'], (0, -1), rfl,
      spells_plain zero (fun _ => rfl) zero (List.cons_ne_nil 0 []) (by decide), by decide +kernel⟩
  | succ code =>
    obtain ⟨grid, selected⟩ := Format.exists_selected below .even
    refine ⟨(Format.single.shortest .even (code + 1)).onWireText,
      (Format.single.shortest .even (code + 1)).onWire, ?_,
      Decimal.spells_onWireText negative selected.strippedPositive
        (selected.few.trans_lt (by decide)), reread?_shortest below⟩
    unfold Value.write
    rw [if_neg (Nat.succ_ne_zero code)]
    rfl

/-- A written distance is decoded to itself. -/
theorem restores {x : Single} (finite : x.isFinite = true) :
    ∃ (d : Document) (v : Json.Value), Builds x.print.render d ∧ Source.keep d = .ok v ∧
      decodeSingle (Kept.mk v) = .ok x := by
  obtain ⟨read, cuts, same⟩ := exists_cuts_write finite
  refine ⟨.scalar (.number (some (.float read))), .number (.float read), ?_, rfl, ?_⟩
  · unfold print
    rw [if_pos finite]
    exact .of_scalar cuts
  · exact congrArg Except.ok same

end Single

/-- A sample of finite numbers is decoded to itself, down to the sign of a zero. -/
theorem finite_samples_decode_back (distance maxRange : Single) (finite : distance.isFinite = true)
    (finiteToo : maxRange.isFinite = true) :
    Wire.ofText (Wire.write (Event.proximityRawSample distance maxRange)) =
      .ok (Event.proximityRawSample distance maxRange) := by
  obtain ⟨d, v, written, keeps, decodes⟩ := Single.restores finite
  obtain ⟨e, w, writtenToo, keepsToo, decodesToo⟩ := Single.restores finiteToo
  have restores : Restores Event.decodeContent .proximityRawSample
      (Event.proximityRawSample distance maxRange).printFields
      (.proximityRawSample distance maxRange) :=
    .of_two (by decide) (fun _ => rfl) written keeps decodes writtenToo keepsToo decodesToo rfl
  exact restores.ofText (fun _ => rfl) EventKind.proximityRawSample.ofName_name
    (Event.untagged _) (relaid_render _)

/-- The negative number closest to zero and the largest number, as a sample. -/
theorem extreme_sample_decodes_back :
    let distance : Single := ⟨true, 1⟩
    let maxRange : Single := ⟨false, 0x7f7fffff⟩
    let text := ("\x7b\"type\":\"proximity_raw_sample\",\"distance\":-1e-45," ++
      "\"max_range\":3.4028235e+38\x7d").toList
    distance.isFinite = true ∧ maxRange.isFinite = true ∧
      Wire.write (Event.proximityRawSample distance maxRange) = text ∧
      Wire.ofText (Wire.write (Event.proximityRawSample distance maxRange)) =
        .ok (Event.proximityRawSample distance maxRange) :=
  ⟨by decide, by decide, by decide +kernel,
    finite_samples_decode_back _ _ (by decide) (by decide)⟩

end InCallProximity
