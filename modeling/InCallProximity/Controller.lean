import InCallProximity.Blanking
import InCallProximity.Event
import InCallProximity.Sensing
import InCallProximity.SpeakerSwitch

/-!
# The controller of a call

A `Controller` takes up events one at a time. Each event is first merged into the snapshot; then
the sensors, the blanking of the screen and the switch to the speaker follow, as far as the event
concerns them. What the platform has to do comes back as commands, in order.

Sensors follow before blanking does, because the start or end of a connected call makes the last
orientation worthless, and so does the start or end of video.
-/

namespace InCallProximity

/-- What a call screen knows of its call, with what each of its parts last asked for. -/
structure Controller where
  snapshot : Snapshot
  blanking : Blanking
  speaker : SpeakerSwitch
  sensing : Sensing
  /-- the call screen is gone; events are ignored -/
  tornDown : Bool
deriving DecidableEq

namespace Controller

/-- The controller of a call screen that was just opened. -/
def initial : Controller := ⟨.initial, .initial, .initial, .initial, false⟩

/-- Takes one signal up into the snapshot. -/
def set (c : Controller) (signal : Signal) : Controller :=
  { c with snapshot := c.snapshot.set signal }

/-- The delayed switch that is still to come at a time. -/
def pending? (c : Controller) (now : Nat) : Option PendingSwitch := c.speaker.pending? now

/-! ## Steps -/

/-- A controller with the commands that led to it. -/
abbrev Outcome := Controller × List Command

/-- Goes on with a step; its commands come last. -/
def Outcome.andThen (outcome : Outcome) (step : Controller → Outcome) : Outcome :=
  let next := step outcome.1
  (next.1, outcome.2 ++ next.2)

/-- Lets the sensors follow the snapshot. The orientation is forgotten if the call was connected or
ended, or if `forget` says so. -/
def followSensing (forget : Bool) (c : Controller) : Outcome :=
  let (sensing, change) := c.sensing.update c.snapshot
  let c := { c with sensing }
  (if change.callActive || forget then c.set (.orientation .unknown) else c, change.commands)

/-- Lets the blanking of the screen follow the snapshot. -/
def followBlanking (c : Controller) : Outcome :=
  let (blanking, command) := c.blanking.update c.snapshot
  ({ c with blanking }, command.toList)

/-- Lets the switch to the speaker follow the last reading. -/
def followReading (settings : Settings) (now : Nat) (c : Controller) : Outcome :=
  let (speaker, commands) := c.speaker.read c.snapshot.proximity c.snapshot settings now
  ({ c with speaker }, commands)

/-- The last reading counts once more when a dialled call connects. -/
def connects (c : Controller) (phase : CallPhase) : Bool :=
  c.snapshot.phase = .outgoing && phase = .activeOffHook

/-- Merges an event into the snapshot, and lets the parts follow that the event concerns. An
orientation that comes while orientation is not sensed is not merged. -/
def take (c : Controller) (settings : Settings) (now : Nat) : Event → Outcome
  | .callPhaseChanged phase =>
    let followed := (followSensing false (c.set (.phase phase))).andThen followBlanking
    if c.connects phase then followed.andThen (followReading settings now) else followed
  | .audioRouteChanged route => followBlanking (c.set (.route route))
  | .orientationChanged orientation =>
    followBlanking (if c.sensing.orientation then c.set (.orientation orientation) else c)
  | .proximityRawSample distance maxRange =>
    let reading := Proximity.classify distance maxRange
    (followReading settings now (c.set (.proximity reading))).andThen followBlanking
  | .displayStateChanged isOn =>
    (followSensing false (c.set (.displayOn isOn))).andThen followBlanking
  | .uiVisibilityChanged showing => followBlanking (c.set (.ui (.ofBool showing)))
  | .dialpadVisibilityChanged visible => followBlanking (c.set (.dialpadVisible visible))
  | .videoCallFlagsChanged attempting isVideo =>
    let flips := c.snapshot.video.isVideo ≠ isVideo
    (followSensing flips (c.set (.video ⟨attempting, isVideo⟩))).andThen followBlanking

/-! ## Events and the end -/

/-- Takes up an event, unless the call screen is gone. -/
def handle (c : Controller) (event : Event) (settings : Settings) (now : Nat) : Outcome :=
  if c.tornDown then (c, []) else c.take settings now event

/-- Ends the call screen: takes back the switch, stops the sensors, and releases the trigger with
the screen on. -/
def teardown (c : Controller) : Outcome :=
  if c.tornDown then (c, [])
  else
    let (speaker, cancelled) := c.speaker.cancel
    let (sensing, stopped) := c.sensing.shutdown
    let (blanking, released) := c.blanking.release
    ({ c with speaker, sensing, blanking, tornDown := true },
      cancelled ++ stopped ++ released.toList)

end Controller

end InCallProximity
