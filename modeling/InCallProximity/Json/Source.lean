import InCallProximity.Json.Value
import InCallProximity.Named

/-!
# Where values are decoded from

The same shapes are decoded from three sources: a document, a value, and a value that was set
aside while the rest of an object was read. `Source` is what the decoders know of them. The
sources differ in small ways that their instances state: how an enumeration name may be written,
what counts as a unit, and what is wrong with an array that is too long.
-/

namespace InCallProximity.Json

/-- What stands at a place of a source. -/
inductive View (δ : Type) where
  | null
  | bool (b : Bool)
  | number (n : Number)
  | text (s : String)
  | array (items : List δ) (fault : Option Fault)
  | object (members : List (Except Problem String × δ)) (fault : Option Fault)
  | unreadable (problem : Problem)

/-- A name that selects one of several constants, with the value it carries if it was written as
the only member of an object, and what is wrong with the object after that member. -/
structure Selection (δ : Type) where
  name : String
  carried : Option δ
  afterwards : Option Problem

/-- Something that values are decoded from. -/
class Source (δ : Type) where
  view : δ → View δ
  /-- the value, for a part of the outermost container that is kept for later -/
  keep : δ → Except Problem Value
  /-- goes through a part that is not wanted -/
  ignore : δ → Except Problem Unit
  select : δ → Except Problem (Selection δ)
  /-- the value says nothing -/
  isUnit : δ → Bool
  /-- what is wrong with an array of `given` items when only `wanted` are -/
  excess : (given wanted : Nat) → Problem

namespace View

variable {δ : Type}

/-- What messages say was found, unless it cannot be read. -/
def found : View δ → Except Problem Found
  | .null => .ok .null
  | .bool b => .ok (.bool b)
  | .number (.unsigned n) => .ok (.integer n.toNat)
  | .number (.negSucc n) => .ok (.integer (Int.negSucc n))
  | .number (.float x) => .ok (.float x)
  | .text s => .ok (.text s)
  | .array _ _ => .ok .sequence
  | .object _ _ => .ok .map
  | .unreadable problem => .error problem

/-- The refusal of what was found where something else is expected. -/
def refuse {α : Type} (v : View δ) (expected : String) : Except Problem α := do
  let found ← v.found
  .error (.data (.wrongType found expected))

end View

/-! ## The three sources -/

namespace Document

/-- What a document shows at its outside. The parts of a container are not looked at. -/
def view : Document → View Document
  | .scalar .null => .null
  | .scalar (.bool b) => .bool b
  | .scalar (.number (some n)) => .number n
  | .scalar (.text (some s)) => .text s
  | .scalar (.number none) | .scalar (.text none) => .unreadable (.fault .malformed)
  | .scalar (.brokenText keeping _) | .scalar (.broken keeping _) => .unreadable (.fault keeping)
  | .scalar (.absent fault) => .unreadable (.fault fault)
  | .array items fault => .array items fault
  | .object members fault => .object (members.map fun (key, d) => (key.name, d)) fault

/-- A name is a string or the only key of an object, which is a string too; nothing else may stand
in the text there. -/
def select : Document → Except Problem (Selection Document)
  | .scalar (.text (some s)) => .ok ⟨s, none, none⟩
  | .scalar (.brokenText keeping _) => .error (.fault keeping)
  | .scalar (.absent fault) => .error (.fault fault)
  | .object [] (some fault) => .error (.fault fault)
  | .object ((key, d) :: rest) fault => do
    let name ← key.name
    return ⟨name, some d, if rest.isEmpty then fault.map .fault else some (.fault .malformed)⟩
  | _ => .error (.fault .malformed)

/-- The document says nothing: only null does. -/
def isUnit (d : Document) : Bool := d matches .scalar .null

instance : Source Document where
  view := view
  keep := keep (nestingLimit - 1)
  ignore := ignore
  select := select
  isUnit := isUnit
  excess _ _ := .fault .malformed

end Document

namespace Value

/-- A value as seen by a decoder whose parts are of type `δ`. -/
def viewAs {δ : Type} (part : Value → δ) : Value → View δ
  | .null => .null
  | .bool b => .bool b
  | .number n => .number n
  | .text s => .text s
  | .array items => .array (items.map part) none
  | .object members => .object (members.map fun (name, v) => (.ok name, part v)) none

/-- A name is a string or the only member of an object. -/
def selectAs {δ : Type} (part : Value → δ) : Value → Except Problem (Selection δ)
  | .text s => .ok ⟨s, none, none⟩
  | .object [(name, v)] => .ok ⟨name, some (part v), none⟩
  | .object _ => .error (.data (.wrongValue .map "map with a single key"))
  | v => (viewAs part v).refuse "string or map"

/-- The value says nothing: only null does. -/
def isUnit (v : Value) : Bool := v matches .null

instance : Source Value where
  view := viewAs id
  keep := .ok
  ignore _ := .ok ()
  select := selectAs id
  isUnit := isUnit
  excess given _ := .data (.wrongLength given "fewer elements in array")

end Value

/-- A number of elements, in words. -/
def elements (n : Nat) : String :=
  if n = 1 then "1 element" else toString n ++ " elements"

/-- A value that was set aside while the object around it was read. -/
structure Kept where
  value : Value

namespace Kept

/-- An object without members says as little as null. -/
def isUnit (k : Kept) : Bool :=
  match k.value with
  | .null | .object [] => true
  | _ => false

instance : Source Kept where
  view k := k.value.viewAs Kept.mk
  keep k := .ok k.value
  ignore _ := .ok ()
  select k := k.value.selectAs Kept.mk
  isUnit := isUnit
  excess given wanted := .data (.wrongLength given (elements wanted ++ " in sequence"))

end Kept

/-! ## Booleans, numbers and names -/

section Leaves

variable {δ : Type} [Source δ]

/-- Decodes a flag. -/
def decodeBool (d : δ) : Except Problem Bool :=
  match Source.view d with
  | .bool b => .ok b
  | other => other.refuse "a boolean"

/-- Decodes a single-precision number; every JSON number is one. -/
def decodeSingle (d : δ) : Except Problem Single :=
  match Source.view d with
  | .number n => .ok n.toSingle
  | other => other.refuse "f32"

/-- Decodes an unsigned integer of 64 bits. A negative one is a wrong value, all else a wrong
type. -/
def decodeUnsigned (d : δ) : Except Problem UInt64 :=
  match Source.view d with
  | .number (.unsigned n) => .ok n
  | .number (.negSucc n) => .error (.data (.wrongValue (.integer (Int.negSucc n)) "u64"))
  | other => other.refuse "u64"

end Leaves

/-- The constant of a name, or the refusal of the name. -/
def ofName {α : Type} [Named α] (s : String) : Except Problem α :=
  match Named.ofName? s with
  | some a => .ok a
  | none => .error (.data (.unknownName s ((Named.all : List α).map Named.name)))

/-- Refuses a value carried by a name, unless it is a unit. -/
def requireUnit {δ : Type} [Source δ] : Option δ → Except Problem Unit
  | none => .ok ()
  | some d => if Source.isUnit d then .ok () else (Source.view d).refuse "unit"

/-- Reports a problem, if there is one. -/
def report : Option Problem → Except Problem Unit
  | none => .ok ()
  | some problem => .error problem

/-- Decodes a constant from its name. If the name is the member of an object, its value has to be a
unit. -/
def decodeNamed {δ α : Type} [Source δ] [Named α] (d : δ) : Except Problem α := do
  let selection ← Source.select d
  let a ← ofName selection.name
  requireUnit selection.carried
  report selection.afterwards
  return a

end InCallProximity.Json
