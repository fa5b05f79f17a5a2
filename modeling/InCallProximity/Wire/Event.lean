import InCallProximity.Event
import InCallProximity.Wire
import InCallProximity.Wire.Content
import InCallProximity.Wire.Distance

/-!
# Events on the wire

An event is a tagged object. Only the flags of a video call may be left out; both are false then.
-/

namespace InCallProximity

open Json

namespace Event

/-- How messages call the fields of a kind of events. -/
def contentTitle (kind : EventKind) : String := "struct variant Event::" ++ Named.title kind

/-- Decodes the fields of an event whose kind is known. -/
def decodeContent (kind : EventKind) (content : Content) : Except Problem Event :=
  let title := contentTitle kind
  match kind with
  | .callPhaseChanged =>
    (content.decode (.one title .idle "phase" decodeNamed)).map .callPhaseChanged
  | .audioRouteChanged =>
    (content.decode (.one title .earpiece "route" decodeNamed)).map .audioRouteChanged
  | .orientationChanged =>
    (content.decode (.one title .unknown "orientation" decodeNamed)).map .orientationChanged
  | .proximityRawSample =>
    let zero : Single := ⟨false, 0⟩
    (content.decode (.two title (zero, zero) "distance" decodeSingle "max_range" decodeSingle)).map
      fun (distance, maxRange) => .proximityRawSample distance maxRange
  | .displayStateChanged =>
    (content.decode (.one title false "is_on" decodeBool)).map .displayStateChanged
  | .uiVisibilityChanged =>
    (content.decode (.one title false "showing" decodeBool)).map .uiVisibilityChanged
  | .dialpadVisibilityChanged =>
    (content.decode (.one title false "visible" decodeBool)).map .dialpadVisibilityChanged
  | .videoCallFlagsChanged =>
    (content.decode (.flags title "attempting" "is_video")).map
      fun (attempting, isVideo) => .videoCallFlagsChanged attempting isVideo

/-- Decodes an event from its tag and its fields. -/
def decode {δ : Type} [Source δ] (d : δ) : Except Problem Event := do
  let (kind, content) ← Tagged.split "Event" d
  decodeContent kind content

/-- The members of a written event besides its tag. -/
def printFields : Event → List (String × Printed)
  | .callPhaseChanged phase => [("phase", Wire.print phase)]
  | .audioRouteChanged route => [("route", Wire.print route)]
  | .orientationChanged orientation => [("orientation", Wire.print orientation)]
  | .proximityRawSample distance maxRange =>
    [("distance", distance.print), ("max_range", maxRange.print)]
  | .displayStateChanged isOn => [("is_on", .bool isOn)]
  | .uiVisibilityChanged showing => [("showing", .bool showing)]
  | .dialpadVisibilityChanged visible => [("visible", .bool visible)]
  | .videoCallFlagsChanged attempting isVideo =>
    [("attempting", .bool attempting), ("is_video", .bool isVideo)]

/-- The parts of a displayed event. -/
def displayFields : Event → List (String × String)
  | .callPhaseChanged phase => [("phase", Wire.display phase)]
  | .audioRouteChanged route => [("route", Wire.display route)]
  | .orientationChanged orientation => [("orientation", Wire.display orientation)]
  | .proximityRawSample distance maxRange =>
    [("distance", distance.display), ("max_range", maxRange.display)]
  | .displayStateChanged isOn => [("is_on", displayBool isOn)]
  | .uiVisibilityChanged showing => [("showing", displayBool showing)]
  | .dialpadVisibilityChanged visible => [("visible", displayBool visible)]
  | .videoCallFlagsChanged attempting isVideo =>
    [("attempting", displayBool attempting), ("is_video", displayBool isVideo)]

instance : Wire Event where
  decode := decode
  print event := .object (("type", Wire.print event.kind) :: event.printFields)
  display event := displayRecord (Named.title event.kind) event.displayFields

end Event

end InCallProximity
