/-!
# Binary floating point in exact arithmetic

A binary format is given by the number of its stored fraction bits and of its exponent bits.
The non-negative values of a format are numbered upwards from zero: the *code* of a value is the
integer that its exponent and fraction bits spell, so the order of codes is the order of values,
the code after the largest finite one is infinity, and every larger one is no number.

`Format.round` takes a non-negative fraction to the code of the nearest value, ties going to the
even code. Every other operation (reading, scaling by a power of ten, narrowing) is the exact
result followed by one such rounding.
-/

namespace InCallProximity.Binary

/-- A binary interchange format: how many fraction bits are stored, and how many exponent bits. -/
structure Format where
  fractionBits : Nat
  exponentBits : Nat
deriving DecidableEq

namespace Format

/-- Single precision: 32 bits in all. -/
abbrev single : Format := ⟨23, 8⟩

/-- Double precision: 64 bits in all. -/
abbrev double : Format := ⟨52, 11⟩

/-- The number of codes that share one exponent. -/
def binade (f : Format) : Nat := Nat.pow 2 f.fractionBits

/-- The code of infinity; the finite values are the smaller codes. -/
def infinity (f : Format) : Nat := (Nat.pow 2 f.exponentBits - 1) * f.binade

/-- The exponent of the least positive value, which is a power of two. -/
def leastExponent (f : Format) : Int :=
  2 - (Nat.pow 2 (f.exponentBits - 1) : Nat) - f.fractionBits

/-- The integer mantissa of a code; the value is this times two to `exponent`. -/
def mantissa (f : Format) (code : Nat) : Nat :=
  if code < f.binade then code else code % f.binade + f.binade

/-- The power of two that the mantissa of a code is scaled by. The codes of the lowest two binades
share the least one. -/
def exponent (f : Format) (code : Nat) : Int :=
  f.leastExponent + ((code / f.binade - 1 : Nat) : Int)

/-- A code as a whole number of least positive values. -/
def units (f : Format) (code : Nat) : Nat :=
  f.mantissa code * Nat.pow 2 (code / f.binade - 1)

end Format

/-! ## Rounding -/

/-- The quotient rounded to the nearest integer, a tie to the even one. -/
def roundDiv (num den : Nat) : Nat :=
  let quotient := num / den
  match compare (2 * (num % den)) den with
  | .lt => quotient
  | .gt => quotient + 1
  | .eq => if quotient % 2 = 0 then quotient else quotient + 1

/-- The exponent of the binade that holds the positive fraction `num / den`: the largest `k` with
two to the `k` at most `num / den`. -/
def floorLog (num den : Nat) : Int :=
  let estimate : Int := (num.log2 : Int) - (den.log2 : Int)
  if num * Nat.pow 2 (-estimate).toNat < den * Nat.pow 2 estimate.toNat then estimate - 1
  else estimate

/-- The code nearest to the fraction `num / den`, a tie to the even code. What lies half a unit or
more above the largest finite value goes to infinity. -/
def Format.round (f : Format) (num den : Nat) : Nat :=
  if num = 0 then 0
  else
    let unit : Int := max f.leastExponent (floorLog num den - f.fractionBits)
    let mantissa := roundDiv (num * Nat.pow 2 (-unit).toNat) (den * Nat.pow 2 unit.toNat)
    min f.infinity ((unit - f.leastExponent).toNat * f.binade + mantissa)

/-- The code nearest to `num / den` times two to the `exponent`. -/
def Format.roundScaled (f : Format) (num den : Nat) (exponent : Int) : Nat :=
  f.round (num * Nat.pow 2 exponent.toNat) (den * Nat.pow 2 (-exponent).toNat)

/-! ## Magnitudes -/

namespace Format

/-- The product of two finite magnitudes, rounded once. -/
def mul (f : Format) (a b : Nat) : Nat :=
  f.roundScaled (f.mantissa a * f.mantissa b) 1 (f.exponent a + f.exponent b)

/-- The quotient of two finite magnitudes, rounded once; the divisor is not zero. -/
def div (f : Format) (a b : Nat) : Nat :=
  f.roundScaled (f.mantissa a) (f.mantissa b) (f.exponent a - f.exponent b)

/-- A finite magnitude of one format in another, rounded once. -/
def convert (source target : Format) (code : Nat) : Nat :=
  target.roundScaled (source.mantissa code) 1 (source.exponent code)

end Format

/-! ## Signed values -/

/-- A value of a format: a sign and the code of the magnitude. -/
structure Value (f : Format) where
  negative : Bool
  code : Nat
deriving DecidableEq

namespace Value

variable {f : Format}

/-- The value is a number, and not infinity. -/
def isFinite (x : Value f) : Bool := x.code < f.infinity

/-- The value is no number at all. -/
def isNaN (x : Value f) : Bool := f.infinity < x.code

/-- The position of a number on the line; both zeros stand at the same place. -/
def rank (x : Value f) : Int := if x.negative then -(x.code : Int) else x.code

/-- Strict comparison; what is no number compares with nothing. -/
def lt (x y : Value f) : Bool := !x.isNaN && !y.isNaN && decide (x.rank < y.rank)

/-- The value nearest to an integer, a tie to the even one. -/
def ofInt (f : Format) (n : Int) : Value f := ⟨decide (n < 0), f.round n.natAbs 1⟩

/-- The value that a word of bits spells: the sign on top, the code below it. -/
def ofWord (f : Format) (word : Nat) : Value f :=
  let sign := Nat.pow 2 (f.fractionBits + f.exponentBits)
  ⟨decide (sign ≤ word % (2 * sign)), word % sign⟩

/-- The word of bits that spells a value. -/
def toWord (x : Value f) : Nat :=
  (if x.negative then Nat.pow 2 (f.fractionBits + f.exponentBits) else 0) + x.code

end Value

end InCallProximity.Binary

namespace InCallProximity

/-- A single-precision number, as sensors report it. -/
abbrev Single := Binary.Value Binary.Format.single

/-- A double-precision number, as number texts are read. -/
abbrev Double := Binary.Value Binary.Format.double

/-- The single nearest to a double; beyond the range of singles that is infinity. -/
def Double.toSingle (x : Double) : Single :=
  ⟨x.negative, Binary.Format.convert .double .single x.code⟩

/-- The single that 32 bits spell. -/
def Single.ofBits (bits : UInt32) : Single := Binary.Value.ofWord .single bits.toNat

/-- The 32 bits that spell a single. -/
def Single.toBits (x : Single) : UInt32 := UInt32.ofNat x.toWord

end InCallProximity
