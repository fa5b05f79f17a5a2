import InCallProximity.Json.Tagged
import InCallProximity.Json.Printed

/-!
# What goes over the wire

A type that goes over the wire has a decoder, which works on every source, a written form, and a
display for people. A constant is written as its name.
-/

namespace InCallProximity

open Json

/-- A type whose values go over the wire. -/
class Wire (α : Type) where
  decode {δ : Type} [Source δ] : δ → Except Problem α
  print : α → Printed
  display : α → String

namespace Wire

variable {α : Type} [Wire α]

/-- Decodes a JSON text. -/
def ofText (text : List Char) : Except Problem α := readText decode text

/-- Decodes a JSON value, in which the last of repeated members counts. -/
def ofValue (v : Value) : Except Problem α := decode v.collapse

/-- The JSON text of a value. -/
def write (a : α) : List Char := (print a).render

instance {α : Type} [Named α] : Wire α where
  decode := decodeNamed
  print a := .text (Named.name a)
  display := Named.title

instance : Wire Bool where
  decode := decodeBool
  print := .bool
  display := displayBool

end Wire

end InCallProximity
