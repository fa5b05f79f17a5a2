import InCallProximity.Binary.Shortest
import InCallProximity.Json.Token
import InCallProximity.Text.Quoted

/-!
# Why a text or value is refused

A `Problem` is either a fault of the text as JSON or a `Cause`: the text is JSON so far, but not of
the shape that is wanted. Causes are data; their wording is in `Cause.message` alone.
-/

namespace InCallProximity.Json

/-- What was found where something else was wanted. -/
inductive Found where
  | null
  | bool (b : Bool)
  | integer (n : Int)
  | float (x : Double)
  | text (s : String)
  | sequence
  | map
deriving DecidableEq

/-- Why well-formed JSON is refused. -/
inductive Cause where
  /-- none of the names in the list -/
  | unknownName (name : String) (known : List String)
  /-- a value of another type -/
  | wrongType (found : Found) (expected : String)
  /-- a value of the right type that is not allowed -/
  | wrongValue (found : Found) (expected : String)
  /-- an array of the wrong length -/
  | wrongLength (length : Nat) (expected : String)
  | missingMember (name : String)
  | repeatedMember (name : String)
  /-- a delay written as a text that is no number -/
  | badDelay (text : String)
  /-- a delay that is neither a number nor a text -/
  | noDelay
deriving DecidableEq

/-- Why something cannot be read. -/
inductive Problem where
  | fault (fault : Fault)
  | data (cause : Cause)
deriving DecidableEq

/-! ## Wording -/

/-- Doubles in messages have a point or a signed exponent. -/
def messageLayout : Binary.Layout := ⟨.even, -5, 16, ['+']⟩

/-- Names in messages stand between backquotes. -/
def ticked (s : String) : String := "`" ++ s ++ "`"

/-- How messages call what was found. -/
def Found.message : Found → String
  | .null => "null"
  | .bool b => "boolean " ++ ticked (if b then "true" else "false")
  | .integer n => "integer " ++ ticked (toString n)
  | .float x => "floating point " ++ ticked (String.ofList (x.write messageLayout))
  | .text s => "string " ++ Text.quoted s
  | .sequence => "sequence"
  | .map => "map"

/-- The names that would have been accepted. -/
def expectedNames : List String → String
  | [] => "there are no variants"
  | [a] => "expected " ++ ticked a
  | [a, b] => "expected " ++ ticked a ++ " or " ++ ticked b
  | names => "expected one of " ++ String.intercalate ", " (names.map ticked)

/-- What is said of well-formed JSON that is refused. -/
def Cause.message : Cause → String
  | .unknownName name known => "unknown variant " ++ ticked name ++ ", " ++ expectedNames known
  | .wrongType found expected => "invalid type: " ++ found.message ++ ", expected " ++ expected
  | .wrongValue found expected => "invalid value: " ++ found.message ++ ", expected " ++ expected
  | .wrongLength length expected =>
    "invalid length " ++ toString length ++ ", expected " ++ expected
  | .missingMember name => "missing field " ++ ticked name
  | .repeatedMember name => "duplicate field " ++ ticked name
  | .badDelay text => "invalid switch delay '" ++ text ++ "'"
  | .noDelay => "data did not match any variant of untagged enum Delay"

/-- What is said of a text that is no JSON. -/
def Fault.message : Fault → String
  | .malformed => "not JSON"
  | .truncated => "the text ends too early"

/-- What is said of a problem. -/
def Problem.message : Problem → String
  | .fault reason => reason.message
  | .data cause => cause.message

end InCallProximity.Json
