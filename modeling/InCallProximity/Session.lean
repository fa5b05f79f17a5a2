import InCallProximity.CommandSink
import InCallProximity.Controller

/-!
# Sessions

A session belongs to one call screen. It takes up events one at a time: the controller decides
under the settings of that moment, and the resulting commands go to the sink in order. If the sink
loses a command, the commands after it are not handed over, but the controller keeps what it
decided.

Time passes only between steps. During a `wait`, routes that were set before are reported back
first; then the sink does what falls due, and what that sets is reported back at the same time. A
`jump` moves the clock while nothing happens.
-/

namespace InCallProximity

/-- Where the settings of a session come from. -/
structure SettingsSource where
  /-- settings that can be changed at any time -/
  shared : Settings
  /-- settings that hold instead, if any -/
  fixed : Option Settings
deriving DecidableEq

/-- The settings that hold now. -/
def SettingsSource.current (source : SettingsSource) : Settings := source.fixed.getD source.shared

/-- A controller with its clock, its settings, and the sink that its commands go to. -/
structure Session (β : Type) where
  controller : Controller
  settings : SettingsSource
  sink : β
  /-- milliseconds -/
  clock : Nat
deriving DecidableEq

namespace Session

variable {β : Type} [CommandSink β]

/-- A session at time zero that no event has reached. -/
def start (settings : SettingsSource) (sink : β) : Session β := ⟨.initial, settings, sink, 0⟩

/-- Takes over what the controller decided, and hands over the commands; false if one was lost. -/
def follow (s : Session β) (outcome : Controller.Outcome) : Session β × Bool :=
  let (sink, taken) := CommandSink.dispatchAll s.sink s.clock outcome.2
  ({ s with controller := outcome.1, sink }, taken)

/-- Takes up an event under the settings of this moment; false if a command was lost. -/
def apply (s : Session β) (event : Event) : Session β × Bool :=
  s.follow (s.controller.handle event s.settings.current s.clock)

/-- Takes up events in order, up to the first whose commands are not all taken. -/
def applyAll (s : Session β) : List Event → Session β × Bool
  | [] => (s, true)
  | event :: rest =>
    match s.apply event with
    | (s, true) => s.applyAll rest
    | (s, false) => (s, false)

/-- Ends the call screen; false if a command was lost. -/
def teardown (s : Session β) : Session β × Bool := s.follow s.controller.teardown

/-- A delayed switch is still to come. -/
def hasPendingSwitch (s : Session β) : Bool := (s.controller.pending? s.clock).isSome

/-- Takes up the routes that the sink reports back, each as an event. A command that is lost
meanwhile is not noticed. -/
def report (s : Session β) : Session β :=
  let (sink, routes) := CommandSink.report s.sink
  routes.foldl (fun s route => (s.apply (.audioRouteChanged route)).1) { s with sink }

/-- Lets time pass. What falls due happens at its time, and the routes that it sets are reported
back at that time. -/
def wait (s : Session β) (span : Nat) : Session β :=
  let finish := s.clock + span
  let reported := s.report
  let rung := match CommandSink.ringTime? reported.sink s.clock span with
    | some time =>
      { reported with sink := CommandSink.ring reported.sink time, clock := time }.report
    | none => reported
  { rung with clock := finish }

/-- Moves the clock and nothing else. -/
def jump (s : Session β) (span : Nat) : Session β := { s with clock := s.clock + span }

/-- Changes the settings that hold unless fixed ones do. -/
def share (s : Session β) (settings : Settings) : Session β :=
  { s with settings := { s.settings with shared := settings } }

end Session

end InCallProximity
