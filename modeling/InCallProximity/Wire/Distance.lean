import InCallProximity.Binary.Shortest
import InCallProximity.Json.Printed

/-!
# Distances on the wire

On the wire a distance has the fewest digits that read back, the even one of two equally close
choices; one that is no finite number is null. Displays choose the larger of the two, have another
exponent form, and name the numbers that are not finite.
-/

namespace InCallProximity

open Json

/-- Distances on the wire have no exponent from a millionth to below ten billion thousand. -/
def wireLayout : Binary.Layout := ⟨.even, -6, 13, ['+']⟩

/-- Displayed distances have no exponent from a tenth of a thousandth to below ten to the 16. -/
def displayLayout : Binary.Layout := ⟨.up, -4, 16, []⟩

namespace Single

/-- A distance as it is written. -/
def print (x : Single) : Printed := if x.isFinite then .number (x.write wireLayout) else .null

/-- A distance as it is displayed. -/
def display (x : Single) : String :=
  if x.isNaN then "NaN"
  else if x.isFinite then String.ofList (x.write displayLayout)
  else if x.negative then "-inf" else "inf"

end Single

end InCallProximity
