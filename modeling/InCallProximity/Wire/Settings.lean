import InCallProximity.Settings
import InCallProximity.Text.Blank
import InCallProximity.Wire

/-!
# Settings on the wire

Every field may be left out. The delay is a number, or a text that holds one.
-/

namespace InCallProximity

open Json

namespace Settings

/-- The integer of 64 bits that a text holds: blanks around it, a plus sign or none, then digits. -/
def delayOfText? (text : String) : Option UInt64 :=
  let digits := match Text.trim text.toList with
    | '+' :: digits => digits
    | digits => digits
  if digits.isEmpty then none
  else match digits.mapM digit? with
    | none => none
    | some values =>
      let n := Literal.digitsValue values
      if n < UInt64.size then some (UInt64.ofNat n) else none

/-- The delay that a value is. A text that spells none is quoted in the refusal. -/
def delayOfValue : Value → Except Problem UInt64
  | .number (.unsigned n) => .ok n
  | .text s =>
    match delayOfText? s with
    | some n => .ok n
    | none => .error (.data (.badDelay s))
  | _ => .error (.data .noDelay)

/-- Decodes a delay. The value is kept first, since either of two types will do. -/
def decodeDelay {δ : Type} [Source δ] (d : δ) : Except Problem UInt64 := do
  let value ← Source.keep d
  delayOfValue value

/-- The fields of settings. One that is left out is what it is by default. -/
def record {δ : Type} [Source δ] : Record δ Settings where
  title := "struct ProximitySettings"
  fields := [
    .optional "auto_speaker_enabled" decodeBool fun autoSpeaker s => { s with autoSpeaker },
    .optional "in_call_only" decodeBool fun inCallOnly s => { s with inCallOnly },
    .optional "switch_delay_ms" decodeDelay fun switchDelay s => { s with switchDelay }]
  start := .default

instance : Wire Settings where
  decode := record.decode
  print s := .object [
    ("auto_speaker_enabled", .bool s.autoSpeaker),
    ("in_call_only", .bool s.inCallOnly),
    ("switch_delay_ms", .nat s.switchDelay.toNat)]
  display s := displayRecord "ProximitySettings" [
    ("auto_speaker_enabled", displayBool s.autoSpeaker),
    ("in_call_only", displayBool s.inCallOnly),
    ("switch_delay_ms", toString s.switchDelay.toNat)]

end Settings

end InCallProximity
