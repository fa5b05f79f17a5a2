import InCallProximity.Controller
import InCallProximity.Proofs.Binary.Shortest
import InCallProximity.Proofs.Json.Decimals
import InCallProximity.Proofs.Wire.Acceptance

/-!
# Samples of integers

The distances of a sample are often written as integers, which are read as such wherever they stand
(`Number.exists_builds_integer`). Each is rounded to a single by itself, and singles are far coarser
than integers of 64 bits. But rounding keeps the order, so a sample at or beyond the range is far,
and up to 24 bits no two integers fall together, so one below the range is near
(`integer_samples_keep_order`).
-/

namespace InCallProximity

open Json
open Binary (Format)

/-! ## Integer literals -/

namespace Json

/-- The integer that is written with a sign or none and these digits. -/
def Literal.signed (negative : Bool) (digits : List Nat) : Int :=
  if negative then -(digitsValue digits : Int) else digitsValue digits

/-- The number was read of a literal of this integer, which 64 bits hold. -/
structure Number.IsInteger (n : Number) (i : Int) : Prop where
  literal : ∃ negative digits, Literal.signed negative digits = i ∧
    (Literal.integer negative digits).number? = some n
  least : -2 ^ 63 ≤ i
  below : i < 2 ^ 64

namespace Number

/-- The zero with a sign is no integer, but the double of that sign. -/
theorem double?_negative_zero {digits : List Nat} (zero : Literal.digitsValue digits = 0) :
    (Literal.integer true digits).double? = some ⟨true, 0⟩ := by
  have scaled : (Literal.integer true digits).scaled = (0, 0) := by
    have whole : Literal.digitsValue (digits ++ []) = 0 := by rw [List.append_nil, zero]
    have fits : Literal.digitsValue (digits ++ []) < Literal.significandLimit := by
      rw [whole]
      decide
    exact (@Literal.scaled_of_fits (Literal.integer true digits) fits).trans
      (congrArg (·, (0 : Int)) whole)
  have magnitude : Literal.magnitude? 0 0 = some 0 := by decide
  unfold Literal.double?
  rw [scaled, magnitude]
  rfl

/-- Literals of integers that 64 bits hold are read as what they are, but for the zero with a
sign. -/
theorem read_integer {negative : Bool} {digits : List Nat}
    (least : -2 ^ 63 ≤ Literal.signed negative digits)
    (below : Literal.signed negative digits < 2 ^ 64) :
    ∃ n : Number, (Literal.integer negative digits).number? = some n ∧
      (n.int? = some (Literal.signed negative digits) ∨
        n = .float ⟨true, 0⟩ ∧ Literal.signed negative digits = 0) := by
  cases negative with
  | false =>
    have fits : Literal.digitsValue digits < UInt64.size := by
      have below : (Literal.digitsValue digits : Int) < 2 ^ 64 := below
      exact_mod_cast below
    refine ⟨.unsigned (UInt64.ofNat (Literal.digitsValue digits)), if_pos fits, Or.inl ?_⟩
    change some ((UInt64.ofNat (Literal.digitsValue digits)).toNat : Int) = _
    rw [UInt64.toNat_ofNat_of_lt' fits]
    rfl
  | true =>
    have fits : Literal.digitsValue digits ≤ negativeCount := by
      have least : -2 ^ 63 ≤ -(Literal.digitsValue digits : Int) := least
      have : (Literal.digitsValue digits : Int) ≤ 2 ^ 63 := by omega
      exact_mod_cast this
    rcases Nat.eq_zero_or_pos (Literal.digitsValue digits) with zero | positive
    · have read : (Literal.integer true digits).number? =
          (Literal.integer true digits).double?.map .float := dif_neg fun both => by
        have positive : 0 < Literal.digitsValue digits := both.1
        omega
      refine ⟨.float ⟨true, 0⟩, ?_, Or.inr ⟨rfl, by rw [Literal.signed, zero]; rfl⟩⟩
      rw [read, double?_negative_zero zero]
      rfl
    · refine ⟨.negSucc ⟨Literal.digitsValue digits - 1, by omega⟩, dif_pos ⟨positive, fits⟩,
        Or.inl ?_⟩
      change some (Int.negSucc (Literal.digitsValue digits - 1)) = some (-_)
      congr 1
      omega

theorem IsInteger.int?_eq {n : Number} {i : Int} (isInteger : n.IsInteger i) :
    n.int? = some i ∨ n = .float ⟨true, 0⟩ ∧ i = 0 := by
  obtain ⟨⟨negative, digits, rfl, reads⟩, least, below⟩ := isInteger
  obtain ⟨m, read, is⟩ := read_integer least below
  obtain rfl := Option.some.inj (reads.symm.trans read)
  exact is

/-- An integer that 64 bits hold can be written out, with a zero perhaps with a sign. Wherever that
stands in a text, it is read as the integer. -/
theorem exists_builds_integer (negative : Bool) {n : Nat} {i : Int}
    (written : (if negative then -(n : Int) else n) = i) (least : -2 ^ 63 ≤ i)
    (below : i < 2 ^ 64) :
    ∃ number : Number, number.IsInteger i ∧
      Builds (if negative then '-' :: Nat.toDigits 10 n else Nat.toDigits 10 n)
        (.scalar (.number (some number))) := by
  obtain ⟨d, ds, writes, leading⟩ := exists_writes n
  have value : Literal.signed negative (d :: ds) = i := by
    rw [← written, Literal.signed, writes.value]
  obtain ⟨number, read, -⟩ := read_integer (value ▸ least) (value ▸ below)
  refine ⟨number, ⟨⟨negative, d :: ds, value, read⟩, least, below⟩, ?_⟩
  rw [← read]
  exact .of_scalar (cuts_integer negative writes leading)

theorem toSingle_of_int? {n : Number} {i : Int} (isInt : n.int? = some i) :
    n.toSingle = Binary.Value.ofInt .single i := by
  cases n <;> cases isInt <;> rfl

/-- Integer literals are rounded to the place on the line that their integers are rounded to. -/
theorem IsInteger.rank_eq {n : Number} {i : Int} (isInteger : n.IsInteger i) :
    n.toSingle.rank = (Binary.Value.ofInt .single i).rank ∧ n.toSingle.isNaN = false := by
  rcases isInteger.int?_eq with isInt | ⟨rfl, rfl⟩
  · rw [toSingle_of_int? isInt]
    exact ⟨rfl, Binary.Value.isNaN_ofInt .single i⟩
  · exact ⟨by decide, by decide⟩

end Number

end Json

/-! ## Samples -/

/-- A value is a sample whose two distances are these numbers. -/
def Json.Value.IsSample (distance maxRange : Number) : Value → Prop :=
  Denotes (Named.name EventKind.proximityRawSample)
    [.exactly "distance" (.number distance), .exactly "max_range" (.number maxRange)]

theorem Json.Value.isSample_array (distance maxRange : Number) :
    (Value.array [.text "proximity_raw_sample", .number distance, .number maxRange]).IsSample
      distance maxRange := by
  refine .array le_rfl fun i part there => ?_
  match i with
  | 0 => cases there; rfl
  | 1 => cases there; rfl
  | _ + 2 => cases there

/-- A sample was decoded from a text or a value in which its distances are these numbers. -/
inductive DecodedSample (distance maxRange : Number) (x y : Single) : Prop where
  | text {text : List Char} {v : Value} (read : Value.ofText text = .ok v)
      (sample : v.IsSample distance maxRange)
      (decoded : Wire.ofText text = .ok (Event.proximityRawSample x y))
  | value {v : Value} (sample : v.collapse.IsSample distance maxRange)
      (decoded : Wire.ofValue v = .ok (Event.proximityRawSample x y))

/-- Of two lists of parts that a value denotes, parts of one name and place suit the same. -/
theorem Json.Denotes.suits_both {tag tagToo : String} {parts partsToo : List Component} {v : Value}
    (denotes : Denotes tag parts v) (denotesToo : Denotes tagToo partsToo v) {i : Nat}
    {part partToo : Component} (there : parts[i]? = some part)
    (thereToo : partsToo[i]? = some partToo) (sameName : part.name = partToo.name) :
    ∃ found, part.Suits found ∧ partToo.Suits found := by
  cases denotes with
  | object _ suits =>
    cases denotesToo with
    | object _ suitsToo =>
      refine ⟨_, suits part (List.mem_of_getElem? there), ?_⟩
      rw [sameName]
      exact suitsToo partToo (List.mem_of_getElem? thereToo)
  | array _ suits =>
    cases denotesToo with
    | array _ suitsToo => exact ⟨_, suits i part there, suitsToo i partToo thereToo⟩

/-- A number that stands for a distance is rounded to it. -/
theorem Json.Number.toSingle_of_suits {name : String} {n : Number} {x : Single}
    {found : Option Value}
    (exactly : (Component.exactly name (.number n)).Suits found)
    (suits : (Component.distance name x).Suits found) : n.toSingle = x := by
  cases found with
  | none => exact exactly.elim
  | some v =>
    obtain rfl : v = .number n := exactly
    obtain ⟨m, same, rounds⟩ : ∃ m, Value.number n = .number m ∧ m.RoundsTo x := suits
    cases same
    exact Number.toSingle_eq_iff.mpr rounds

variable {distance maxRange : Number} {x y : Single}

theorem Json.Value.IsSample.toSingle_eq {v : Value} (sample : v.IsSample distance maxRange)
    (denotes : Denotes (Named.name EventKind.proximityRawSample)
      (Event.proximityRawSample x y).parts v) : distance.toSingle = x ∧ maxRange.toSingle = y := by
  obtain ⟨first, exactly, suits⟩ := @Denotes.suits_both _ _ _ _ _ sample denotes 0 _ _ rfl rfl rfl
  obtain ⟨second, exactlyToo, suitsToo⟩ :=
    @Denotes.suits_both _ _ _ _ _ sample denotes 1 _ _ rfl rfl rfl
  exact ⟨Number.toSingle_of_suits exactly suits, Number.toSingle_of_suits exactlyToo suitsToo⟩

theorem DecodedSample.toSingle_eq (sample : DecodedSample distance maxRange x y) :
    distance.toSingle = x ∧ maxRange.toSingle = y := by
  cases sample with
  | text read sample decoded =>
    obtain ⟨v, readToo, -, denotes⟩ := Event.ofText_eq_ok_iff.mp decoded
    obtain rfl := Except.ok.inj (read.symm.trans readToo)
    exact sample.toSingle_eq denotes
  | value sample decoded => exact sample.toSingle_eq (Event.decode_iff.mp decoded).2

/-! ## Readings -/

theorem Proximity.classify_eq_near_iff (isNumber : x.isNaN = false)
    (isNumberToo : y.isNaN = false) : classify x y = .near ↔ x.rank < y.rank := by
  unfold classify Binary.Value.lt
  rw [isNumber, isNumberToo]
  by_cases less : x.rank < y.rank <;> simp [less]

theorem Proximity.eq_far_iff {reading : Proximity} : reading = .far ↔ ¬reading = .near := by
  cases reading <;> decide

/-- Integers of up to 24 bits are singles. -/
theorem single_value_of_few {n : Nat} (few : n ≤ 2 ^ 24) :
    Format.single.value (Format.single.round n 1) = n := by
  refine Format.value_round_of_few (by decide) (by decide) (few.trans (by decide)) ?_
  rw [Format.single_value_infinity]
  have cast : (n : ℚ) ≤ (2 ^ 24 : Nat) := Nat.cast_le.mpr few
  exact cast.trans_lt (by norm_num)

namespace Json.Number.IsInteger

variable {d m : Int}

/-- Rounding does not bring a distance below a range that it reaches. -/
theorem classify_eq_far (isDistance : distance.IsInteger d) (isRange : maxRange.IsInteger m)
    (reaches : m ≤ d) : Proximity.classify distance.toSingle maxRange.toSingle = .far := by
  obtain ⟨rank, isNumber⟩ := isDistance.rank_eq
  obtain ⟨rankToo, isNumberToo⟩ := isRange.rank_eq
  rw [Proximity.eq_far_iff, Proximity.classify_eq_near_iff isNumber isNumberToo, rank, rankToo,
    not_lt]
  exact Binary.Value.rank_ofInt_le (by decide) reaches

/-- Up to 24 bits nothing is rounded. -/
theorem classify_eq_near_iff (isDistance : distance.IsInteger d) (isRange : maxRange.IsInteger m)
    (few : d.natAbs ≤ 2 ^ 24) (fewToo : m.natAbs ≤ 2 ^ 24) :
    Proximity.classify distance.toSingle maxRange.toSingle = .near ↔ d < m := by
  constructor
  · intro near
    by_contra reaches
    rw [isDistance.classify_eq_far isRange (not_lt.mp reaches)] at near
    cases near
  · intro less
    obtain ⟨rank, isNumber⟩ := isDistance.rank_eq
    obtain ⟨rankToo, isNumberToo⟩ := isRange.rank_eq
    rw [Proximity.classify_eq_near_iff isNumber isNumberToo, rank, rankToo]
    exact Binary.Value.rank_ofInt_lt (by decide) (single_value_of_few few)
      (single_value_of_few fewToo) less

end Json.Number.IsInteger

/-- A controller takes the reading of a sample as it is. -/
theorem Controller.handle_sample_proximity {c : Controller} (alive : c.tornDown = false)
    (x y : Single) (settings : Settings) (now : Nat) :
    (c.handle (.proximityRawSample x y) settings now).1.snapshot.proximity = .classify x y := by
  unfold handle
  rw [alive]
  rfl

/-- A sample whose distances are written as integers is read as far at and beyond the range. If the
integers have no more than 24 bits, it is read as near exactly below the range. -/
theorem integer_samples_keep_order (sample : DecodedSample distance maxRange x y) {d m : Int}
    (isDistance : distance.IsInteger d) (isRange : maxRange.IsInteger m) :
    (∀ c : Controller, c.tornDown = false → ∀ (settings : Settings) (now : Nat),
      (c.handle (.proximityRawSample x y) settings now).1.snapshot.proximity = .classify x y) ∧
    (m ≤ d → Proximity.classify x y = .far) ∧
    (d.natAbs ≤ 2 ^ 24 → m.natAbs ≤ 2 ^ 24 → (Proximity.classify x y = .near ↔ d < m)) := by
  obtain ⟨rfl, rfl⟩ := sample.toSingle_eq
  exact ⟨fun _ alive => Controller.handle_sample_proximity alive _ _,
    isDistance.classify_eq_far isRange, isDistance.classify_eq_near_iff isRange⟩

/-- Two integers that fall together, and a zero with a sign below one. -/
theorem fallen_together_is_far :
    let distance : Number := .unsigned 18446744073709551615
    let range : Number := .unsigned 18446744073709551000
    let both : Single := ⟨false, 0x5F800000⟩
    let zero : Number := .float ⟨true, 0⟩
    let one : Single := ⟨false, 0x3F800000⟩
    (DecodedSample distance range both both ∧ distance.IsInteger 18446744073709551615 ∧
        range.IsInteger 18446744073709551000 ∧ Proximity.classify both both = .far) ∧
      DecodedSample zero (.unsigned 1) ⟨true, 0⟩ one ∧ zero.IsInteger 0 ∧
        (Number.unsigned 1).IsInteger 1 ∧ Proximity.classify ⟨true, 0⟩ one = .near := by
  intro distance range both zero one
  have fallenTogether : DecodedSample distance range both both :=
    .value (v := .array [.text "proximity_raw_sample", .number distance, .number range])
      (Value.isSample_array _ _) (by decide +kernel)
  have belowOne : DecodedSample zero (.unsigned 1) ⟨true, 0⟩ one :=
    .value (v := .array [.text "proximity_raw_sample", .number zero, .number (.unsigned 1)])
      (Value.isSample_array _ _) (by decide +kernel)
  have distanceIs : distance.IsInteger 18446744073709551615 :=
    ⟨⟨false, [1, 8, 4, 4, 6, 7, 4, 4, 0, 7, 3, 7, 0, 9, 5, 5, 1, 6, 1, 5], by decide⟩, by decide,
      by decide⟩
  have rangeIs : range.IsInteger 18446744073709551000 :=
    ⟨⟨false, [1, 8, 4, 4, 6, 7, 4, 4, 0, 7, 3, 7, 0, 9, 5, 5, 1, 0, 0, 0], by decide⟩, by decide,
      by decide⟩
  have zeroIs : zero.IsInteger 0 := ⟨⟨true, [0], by decide⟩, by decide, by decide⟩
  have oneIs : (Number.unsigned 1).IsInteger 1 := ⟨⟨false, [1], by decide⟩, by decide, by decide⟩
  have far := (integer_samples_keep_order fallenTogether distanceIs rangeIs).2.1 (by decide)
  have near := (integer_samples_keep_order belowOne zeroIs oneIs).2.2 (by decide) (by decide)
  exact ⟨⟨fallenTogether, distanceIs, rangeIs, far⟩, belowOne, zeroIs, oneIs,
    near.mpr (by decide)⟩

-- Both are read from texts as well.
example :
    Wire.ofText "[\"proximity_raw_sample\",18446744073709551615,18446744073709551000]".toList =
        .ok (Event.proximityRawSample ⟨false, 0x5F800000⟩ ⟨false, 0x5F800000⟩) ∧
      Wire.ofText "[\"proximity_raw_sample\",-0,1]".toList =
        .ok (Event.proximityRawSample ⟨true, 0⟩ ⟨false, 0x3F800000⟩) := by
  decide +kernel

end InCallProximity
