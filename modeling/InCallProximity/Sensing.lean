import InCallProximity.Command
import InCallProximity.Snapshot

/-!
# Which sensors listen

The proximity sensor listens while the call is connected. Orientation is sensed only while the
display is on as well, since it matters for the screen alone. `Sensing` remembers what was last
asked for, so a command goes out only when a sensor has to start or stop.
-/

namespace InCallProximity

/-- What the sensors were last asked to do. -/
structure Sensing where
  /-- the call is connected, so the proximity sensor listens -/
  callActive : Bool
  /-- orientation is sensed -/
  orientation : Bool
deriving DecidableEq

namespace Sensing

/-- No sensor listens. -/
def initial : Sensing := ⟨false, false⟩

/-- The sensors that have to listen in a snapshot. -/
def wanted (s : Snapshot) : Sensing := ⟨s.isOffHook, s.isOffHook && s.displayOn⟩

/-- Starts or stops the proximity sensor, if that is a change. -/
def proximityCommands (was is : Bool) : List Command :=
  if is = was then [] else [if is then .startProximitySensing else .stopProximitySensing]

/-- Starts or stops sensing orientation, if that is a change. -/
def orientationCommands (was is : Bool) : List Command :=
  if is = was then [] else [if is then .startOrientationSensing else .stopOrientationSensing]

/-- What a snapshot changed. -/
structure Change where
  /-- the call was connected or ended -/
  callActive : Bool
  commands : List Command
deriving DecidableEq

/-- Lets the sensors follow a snapshot. The proximity sensor is switched first. -/
def update (sensing : Sensing) (s : Snapshot) : Sensing × Change :=
  let next := wanted s
  (next, ⟨next.callActive ≠ sensing.callActive,
    proximityCommands sensing.callActive next.callActive ++
      orientationCommands sensing.orientation next.orientation⟩)

/-- Stops the sensors that listen, the proximity sensor last. -/
def shutdown (sensing : Sensing) : Sensing × List Command :=
  (initial, orientationCommands sensing.orientation false ++
    proximityCommands sensing.callActive false)

end Sensing

end InCallProximity
