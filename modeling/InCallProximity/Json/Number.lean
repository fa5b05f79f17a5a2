import InCallProximity.Binary.Format

/-!
# Numbers in JSON text

A number literal without fraction and exponent is an integer if it fits 64 bits, unsigned for the
positive ones and signed for the negative ones. Every other literal, `-0` among them, is a
double.

A double is read in two steps, each rounded to nearest. The *significand* takes the leading
digits that fit 64 bits and drops the others; then it is multiplied or divided by a power of ten,
itself rounded. So a literal of few digits and small exponent gives the nearest double, and one
whose magnitude passes the largest double has no value at all.
-/

namespace InCallProximity.Json

open Binary (Format)

/-- The number of negative integers of 64 bits. -/
abbrev negativeCount : Nat := 0x8000000000000000

/-- A JSON number as it is read: an integer of 64 bits, or a double. -/
inductive Number where
  | unsigned (n : UInt64)
  /-- the negative integer `-(n + 1)` -/
  | negSucc (n : Fin negativeCount)
  | float (x : Double)
deriving DecidableEq

/-- A number literal in its parts. Digits are values below ten, in the order of the text. -/
structure Literal where
  negative : Bool
  whole : List Nat
  fraction : List Nat
  exponentNegative : Bool
  exponent : List Nat
  /-- a point or an exponent mark was written, so the number is no integer -/
  isReal : Bool

namespace Literal

/-- The integer that digits spell in base ten. -/
def digitsValue (digits : List Nat) : Nat :=
  digits.foldl (fun n d => 10 * n + d) 0

/-- The number of values of a significand. -/
def significandLimit : Nat := UInt64.size

/-- Appends digits to a significand as long as it stays below the limit; the digits from the first
one that does not fit are left over. -/
def absorb (significand : Nat) : List Nat → Nat × List Nat
  | [] => (significand, [])
  | d :: ds =>
    if 10 * significand + d < significandLimit then absorb (10 * significand + d) ds
    else (significand, d :: ds)

/-- The significand and the power of ten that belongs to it. Digits dropped before the point count
towards the power, digits taken after it against. -/
def scaled (l : Literal) : Nat × Int :=
  let (whole, dropped) := absorb 0 l.whole
  let (significand, unread) := absorb whole l.fraction
  let written : Int := digitsValue l.exponent
  (significand,
    dropped.length - (l.fraction.length - unread.length : Nat) +
      (if l.exponentNegative then -written else written))

/-- The largest power of ten that is a finite double. -/
def powerLimit : Nat := 308

/-- Ten to the `power` as a double. -/
def powerOfTen (power : Nat) : Nat := Format.double.round (Nat.pow 10 power) 1

/-- The magnitude of significand times a power of ten, or none beyond the largest double. A
division by more than the largest power of ten is done in two. -/
def magnitude? (significand : Nat) (power : Int) : Option Nat :=
  let base := Format.double.round significand 1
  if 0 ≤ power then
    if power.toNat ≤ powerLimit then
      let product := Format.double.mul base (powerOfTen power.toNat)
      if product < Format.double.infinity then some product else none
    else if base = 0 then some 0
    else none
  else
    let down := (-power).toNat
    if down ≤ powerLimit then some (Format.double.div base (powerOfTen down))
    else if down ≤ 2 * powerLimit then
      some (Format.double.div (Format.double.div base (powerOfTen powerLimit))
        (powerOfTen (down - powerLimit)))
    else some 0

/-- The literal as a double, or none beyond the largest one. -/
def double? (l : Literal) : Option Double :=
  (magnitude? l.scaled.1 l.scaled.2).map (⟨l.negative, ·⟩)

/-- The number that the literal stands for, or none if it is too large for a double. -/
def number? (l : Literal) : Option Number :=
  let n := digitsValue l.whole
  if l.isReal then l.double?.map .float
  else if l.negative then
    if positive : 0 < n ∧ n ≤ negativeCount then some (.negSucc ⟨n - 1, by omega⟩)
    else l.double?.map .float
  else if n < UInt64.size then some (.unsigned (UInt64.ofNat n))
  else l.double?.map .float

end Literal

namespace Number

/-- The integer that a number stands for, if it was written as one. -/
def int? : Number → Option Int
  | .unsigned n => some n.toNat
  | .negSucc n => some (Int.negSucc n)
  | .float _ => none

/-- The nearest single: integers are rounded once, other numbers through the double that they were
read as. -/
def toSingle : Number → Single
  | .unsigned n => Binary.Value.ofInt .single n.toNat
  | .negSucc n => Binary.Value.ofInt .single (Int.negSucc n)
  | .float x => x.toSingle

end Number

end InCallProximity.Json
