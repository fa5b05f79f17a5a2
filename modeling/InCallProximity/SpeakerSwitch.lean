import InCallProximity.Command
import InCallProximity.Settings
import InCallProximity.Snapshot

/-!
# Switching to the speaker

Something near for long enough moves the audio to the speaker, and nothing near brings it back to
the earpiece at once. `SpeakerSwitch` remembers the delayed switch that was asked for last. Every
reading first takes that switch back, whether or not it is overdue: whoever carries it out may not
have come to it yet.
-/

namespace InCallProximity

/-- A delayed switch of the audio route. Times are in milliseconds. -/
structure PendingSwitch where
  target : AudioRoute
  delay : UInt64
  deadline : Nat
deriving DecidableEq

/-- The deadline of a switch is still to come. -/
def PendingSwitch.isLive (switch : PendingSwitch) (now : Nat) : Bool := now < switch.deadline

/-- The delayed switch that was asked for and not taken back. -/
structure SpeakerSwitch where
  owed : Option PendingSwitch
deriving DecidableEq

namespace SpeakerSwitch

/-- No switch was asked for. -/
def initial : SpeakerSwitch := ⟨none⟩

/-- The switch that was asked for, as long as its deadline is still to come. -/
def pending? (speaker : SpeakerSwitch) (now : Nat) : Option PendingSwitch :=
  speaker.owed.filter (·.isLive now)

/-- Takes back the switch that was asked for. -/
def cancelCommands (speaker : SpeakerSwitch) : List Command :=
  match speaker.owed with
  | some _ => [.cancelScheduledRouteSwitch]
  | none => []

/-- What a reading asks for: only during a connected call, only if the user wants it, and never
away from a device that the user connected. The restriction to calls of others guards the way to
the speaker, not the way back. -/
def response? (reading : Proximity) (s : Snapshot) (settings : Settings) : Option Command :=
  if !s.isOffHook || !settings.autoSpeaker || s.route.isExternalDevice then none
  else match reading with
    | .near =>
      if s.route = .speaker || (settings.inCallOnly && s.outgoingCall) then none
      else some (.scheduleRouteSwitch .speaker settings.switchDelay)
    | .far => some (.setRoute .earpiece)

/-- The switch that a command asks for at a time. -/
def owedBy (now : Nat) : Command → Option PendingSwitch
  | .scheduleRouteSwitch target delay => some ⟨target, delay, now + delay.toNat⟩
  | _ => none

/-- Takes up a reading at a time: takes back the switch that was asked for, then asks for what the
reading asks for. -/
def read (speaker : SpeakerSwitch) (reading : Proximity) (s : Snapshot) (settings : Settings)
    (now : Nat) : SpeakerSwitch × List Command :=
  let response := response? reading s settings
  (⟨response.bind (owedBy now)⟩, speaker.cancelCommands ++ response.toList)

/-- Takes back the switch that was asked for. -/
def cancel (speaker : SpeakerSwitch) : SpeakerSwitch × List Command :=
  (initial, speaker.cancelCommands)

end SpeakerSwitch

end InCallProximity
