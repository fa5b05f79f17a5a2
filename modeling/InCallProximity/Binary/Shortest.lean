import InCallProximity.Binary.Format

/-!
# The fewest digits that read back

A finite value of a format stands for an interval of reals, from halfway to its lower neighbour
to halfway to its upper one, the two ends included exactly when its code is even. `shortest`
selects, among the decimals in that interval with the fewest digits, the one closest to the
value. Two such decimals can be equally close; then a `Tie` decides.

`Layout` holds what a text form decides once the digits are known: which magnitudes are written
without an exponent, and how an exponent looks. The layouts that are in use are defined where
they are written.
-/

namespace InCallProximity.Binary

/-- The decimal number `digits` times ten to the `exponent`. -/
structure Decimal where
  digits : Nat
  exponent : Int
deriving DecidableEq

/-- Which of two equally close decimals is taken. -/
inductive Tie where
  /-- the one whose last digit is even -/
  | even
  /-- the larger one -/
  | up
deriving DecidableEq

/-- Moves up to `steps` trailing zeros of the digits into the exponent. -/
def Decimal.strip : Nat → Decimal → Decimal
  | 0, d => d
  | steps + 1, d =>
    if d.digits % 10 = 0 then Decimal.strip steps ⟨d.digits / 10, d.exponent + 1⟩ else d

namespace Format

variable (f : Format)

/-- Compares the decimal, counted in halves of the least positive value, with `halves` of them. -/
def compareHalves (d : Decimal) (halves : Nat) : Ordering :=
  compare (d.digits * Nat.pow 10 d.exponent.toNat * Nat.pow 2 (1 - f.leastExponent).toNat)
    (halves * Nat.pow 10 (-d.exponent).toNat)

/-- The decimal lies among the reals that round to the code. -/
def readsBack (code : Nat) (d : Decimal) : Bool :=
  let low := f.compareHalves d (f.units (code - 1) + f.units code)
  let high := f.compareHalves d (f.units code + f.units (code + 1))
  let ends := code % 2 == 0
  (low == .gt || (ends && low == .eq)) && (high == .lt || (ends && high == .eq))

/-- The place of the decimal point of a positive value: the least `k` such that the value is below
ten to the `k`. -/
def pointPlace (code : Nat) : Int :=
  let num := f.units code
  let den := Nat.pow 2 (-f.leastExponent).toNat
  if den ≤ num then (Nat.toDigits 10 (num / den)).length
  else 1 - ((Nat.toDigits 10 ((den + num - 1) / num - 1)).length : Int)

/-- The best decimal on the grid of multiples of ten to the `exponent`, if one of the value's two
neighbours on that grid reads back. -/
def onGrid? (tie : Tie) (code : Nat) (exponent : Int) : Option Decimal :=
  let below := f.units code * Nat.pow 10 (-exponent).toNat /
    (Nat.pow 2 (-f.leastExponent).toNat * Nat.pow 10 exponent.toNat)
  let low : Decimal := ⟨below, exponent⟩
  let high : Decimal := ⟨below + 1, exponent⟩
  match f.readsBack code low, f.readsBack code high with
  | false, false => none
  | true, false => some low
  | false, true => some high
  | true, true =>
    match f.compareHalves ⟨2 * below + 1, exponent⟩ (4 * f.units code) with
    | .gt => some low
    | .lt => some high
    | .eq => match tie with
      | .even => some (if below % 2 = 0 then low else high)
      | .up => some high

/-- Every decimal of this many digits tells two values apart. -/
def digitLimit : Nat := 17

/-- The closest of the shortest decimals that read back as a positive finite code. -/
def shortest (tie : Tie) (code : Nat) : Decimal :=
  let place := f.pointPlace code
  let found := (List.range digitLimit).findSome? fun (n : Nat) => f.onGrid? tie code (place - n - 1)
  (found.getD ⟨f.units code * Nat.pow 5 (-f.leastExponent).toNat, f.leastExponent⟩).strip digitLimit

end Format

/-! ## Layout -/

/-- How a number is written once its digits are known. -/
structure Layout where
  /-- which of two equally close decimals is taken -/
  tie : Tie
  /-- the least place of the decimal point that is written without an exponent, less one -/
  plainAbove : Int
  /-- the largest place of the decimal point that is written without an exponent -/
  plainUpTo : Int
  /-- the sign in front of an exponent that is not negative -/
  plus : List Char

/-- The digits with the point at the given place, or one digit before the point and an exponent. -/
def Layout.place (layout : Layout) (digits : List Char) (point : Int) : List Char :=
  if layout.plainAbove < point ∧ point ≤ layout.plainUpTo then
    if point ≤ 0 then '0' :: '.' :: (List.replicate (-point).toNat '0' ++ digits)
    else
      let whole := digits.take point.toNat
      let fraction := digits.drop point.toNat
      whole ++ List.replicate (point.toNat - digits.length) '0' ++
        '.' :: (if fraction.isEmpty then ['0'] else fraction)
  else
    let exponent := point - 1
    let fraction := digits.drop 1
    digits.take 1 ++ (if fraction.isEmpty then [] else '.' :: fraction) ++
      'e' :: ((if exponent < 0 then ['-'] else layout.plus) ++ Nat.toDigits 10 exponent.natAbs)

/-- The text of a finite value: a minus sign if its sign is negative, zero included, then the
shortest digits that read back. -/
def Value.write {f : Format} (layout : Layout) (x : Value f) : List Char :=
  let magnitude :=
    if x.code = 0 then ['0', '.', '0']
    else
      let decimal := f.shortest layout.tie x.code
      let digits := Nat.toDigits 10 decimal.digits
      layout.place digits (decimal.exponent + digits.length)
  if x.negative then '-' :: magnitude else magnitude

end InCallProximity.Binary
