import InCallProximity.Command
import InCallProximity.Wire
import InCallProximity.Wire.Content

/-!
# Commands on the wire

A command is a tagged object all of whose fields have to be present.
-/

namespace InCallProximity

open Json

namespace Command

/-- How messages call the fields of a kind of commands. -/
def contentTitle (kind : CommandKind) : String := "struct variant Command::" ++ Named.title kind

/-- Decodes the fields of a command whose kind is known. -/
def decodeContent (kind : CommandKind) (content : Content) : Except Problem Command :=
  let title := contentTitle kind
  let bare (command : Command) : Except Problem Command :=
    (content.decode (.empty title)).map fun _ => command
  match kind with
  | .acquireBlankTrigger => bare .acquireBlankTrigger
  | .releaseBlankTrigger =>
    (content.decode (.one title false "immediate" decodeBool)).map .releaseBlankTrigger
  | .startOrientationSensing => bare .startOrientationSensing
  | .stopOrientationSensing => bare .stopOrientationSensing
  | .startProximitySensing => bare .startProximitySensing
  | .stopProximitySensing => bare .stopProximitySensing
  | .scheduleRouteSwitch =>
    (content.decode
        (.two title (.earpiece, 0) "target" decodeNamed "delay_ms" decodeUnsigned)).map
      fun (target, delay) => .scheduleRouteSwitch target delay
  | .cancelScheduledRouteSwitch => bare .cancelScheduledRouteSwitch
  | .setRoute => (content.decode (.one title .earpiece "target" decodeNamed)).map .setRoute

/-- Decodes a command from its tag and its fields. -/
def decode {δ : Type} [Source δ] (d : δ) : Except Problem Command := do
  let (kind, content) ← Tagged.split "Command" d
  decodeContent kind content

/-- The members of a written command besides its tag. -/
def printFields : Command → List (String × Printed)
  | .releaseBlankTrigger immediate => [("immediate", .bool immediate)]
  | .scheduleRouteSwitch target delay =>
    [("target", Wire.print target), ("delay_ms", .nat delay.toNat)]
  | .setRoute target => [("target", Wire.print target)]
  | .acquireBlankTrigger | .startOrientationSensing | .stopOrientationSensing
  | .startProximitySensing | .stopProximitySensing | .cancelScheduledRouteSwitch => []

/-- The parts of a displayed command. -/
def displayFields : Command → List (String × String)
  | .releaseBlankTrigger immediate => [("immediate", displayBool immediate)]
  | .scheduleRouteSwitch target delay =>
    [("target", Wire.display target), ("delay_ms", toString delay.toNat)]
  | .setRoute target => [("target", Wire.display target)]
  | .acquireBlankTrigger | .startOrientationSensing | .stopOrientationSensing
  | .startProximitySensing | .stopProximitySensing | .cancelScheduledRouteSwitch => []

instance : Wire Command where
  decode := decode
  print command := .object (("type", Wire.print command.kind) :: command.printFields)
  display command := displayRecord (Named.title command.kind) command.displayFields

end Command

end InCallProximity
