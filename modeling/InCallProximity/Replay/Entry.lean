import InCallProximity.Device
import InCallProximity.Replay.Script
import InCallProximity.Settings
import InCallProximity.Wire.Event

/-!
# What a replay tells

A replay tells of each step before it takes it, and of each call to the platform when it is made.
Entries are data; their wording is in `Entry.line` alone.
-/

namespace InCallProximity.Replay

/-- Something that a replay tells of. -/
inductive Entry where
  | step (step : Step)
  | call (call : PlatformCall)
deriving DecidableEq

/-- A switch that is on or off. -/
def onOff (on : Bool) : String := if on then "on" else "off"

/-- A call in words. -/
def describe : PlatformCall → String
  | .acquire => "blank trigger: acquire"
  | .release immediate => "blank trigger: release (immediate: " ++ displayBool immediate ++ ")"
  | .orientation enabled => "orientation sensing: " ++ onOff enabled
  | .proximity enabled => "proximity sensing: " ++ onOff enabled
  | .route route => "audio route: " ++ route.label

/-- An entry as a line. Steps stand in brackets, calls are indented. -/
def Entry.line : Entry → String
  | .step (.wait span) => "[wait " ++ toString span.toNat ++ "ms]"
  | .step (.event report) => "[" ++ report.topic ++ "] " ++ Wire.display report
  | .call made => "  -> " ++ describe made

/-- The lines before the first step, with the settings of the replay. -/
def heading (settings : Settings) : List String :=
  ["=== Proximity Replay ===",
    "auto speaker: " ++ displayBool settings.autoSpeaker ++
      ", in-call only: " ++ displayBool settings.inCallOnly ++
      ", delay: " ++ toString settings.switchDelay.toNat ++ "ms",
    ""]

/-- The lines after the last step. -/
def closing : List String := ["", "Done."]

end InCallProximity.Replay
