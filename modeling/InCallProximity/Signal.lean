import InCallProximity.Binary.Format
import InCallProximity.Named

/-!
# Signals

The things that the screen and the audio route of a call depend on: the phase of the call, where
its audio goes, how the device lies, whether something is close to the proximity sensor, whether
the call screen is in front, and whether video is in play.
-/

namespace InCallProximity

/-- How far a call has come. -/
inductive CallPhase where
  /-- no call -/
  | idle
  /-- ringing, not answered yet -/
  | incoming
  /-- dialling, or waiting for the other side to pick up -/
  | outgoing
  /-- connected -/
  | activeOffHook
deriving DecidableEq

namespace CallPhase

instance : Named CallPhase where
  all := [.idle, .incoming, .outgoing, .activeOffHook]
  name
    | .idle => "idle"
    | .incoming => "incoming"
    | .outgoing => "outgoing"
    | .activeOffHook => "active_off_hook"

/-- A phase as people read it. -/
def label : CallPhase → String
  | .activeOffHook => "offhook"
  | phase => Named.name phase

end CallPhase

/-- Where the audio of a call goes. -/
inductive AudioRoute where
  | earpiece
  | speaker
  | bluetooth
  | wiredHeadset
deriving DecidableEq

namespace AudioRoute

instance : Named AudioRoute where
  all := [.earpiece, .speaker, .bluetooth, .wiredHeadset]
  name
    | .earpiece => "earpiece"
    | .speaker => "speaker"
    | .bluetooth => "bluetooth"
    | .wiredHeadset => "wired_headset"

/-- A route as people read it. -/
def label (route : AudioRoute) : String := Named.name route

/-- The phone is not held to the ear. -/
def keepsScreenOn : AudioRoute → Bool
  | .earpiece => false
  | .speaker | .bluetooth | .wiredHeadset => true

/-- The user chose the route by connecting a device; it is never left automatically. -/
def isExternalDevice : AudioRoute → Bool
  | .earpiece | .speaker => false
  | .bluetooth | .wiredHeadset => true

end AudioRoute

/-- How the device lies, as far as it is known. -/
inductive Orientation where
  | unknown
  | horizontal
  | other
deriving DecidableEq

namespace Orientation

instance : Named Orientation where
  all := [.unknown, .horizontal, .other]
  name
    | .unknown => "unknown"
    | .horizontal => "horizontal"
    | .other => "other"

/-- The device is known to lie flat. -/
def isHorizontal : Orientation → Bool
  | .horizontal => true
  | .unknown | .other => false

end Orientation

/-- Whether something is close to the proximity sensor. -/
inductive Proximity where
  | near
  | far
deriving DecidableEq

namespace Proximity

instance : Named Proximity where
  all := [.near, .far]
  name
    | .near => "near"
    | .far => "far"

/-- Something is close. -/
def isNear : Proximity → Bool
  | .near => true
  | .far => false

/-- A distance below the range of the sensor is near. One at or beyond the range is far, and so is
one that does not compare. -/
def classify (distance maxRange : Single) : Proximity :=
  if distance.lt maxRange then .near else .far

end Proximity

/-- Whether the call screen is in front. -/
inductive Visibility where
  | showing
  /-- another application is in front; a dark screen alone does not count -/
  | backgrounded
deriving DecidableEq

namespace Visibility

instance : Named Visibility where
  all := [.showing, .backgrounded]
  name
    | .showing => "showing"
    | .backgrounded => "backgrounded"

/-- The visibility that a flag stands for. -/
def ofBool (showing : Bool) : Visibility := if showing then .showing else .backgrounded

end Visibility

/-- Whether a video call is being negotiated, and whether one is on. -/
structure VideoFlags where
  attempting : Bool
  isVideo : Bool
deriving DecidableEq

namespace VideoFlags

/-- No video, neither on nor negotiated. -/
def off : VideoFlags := ⟨false, false⟩

/-- Video is in play: on, or being negotiated. -/
def any (video : VideoFlags) : Bool := video.attempting || video.isVideo

end VideoFlags

end InCallProximity
