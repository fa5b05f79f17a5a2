import InCallProximity.CommandSink
import InCallProximity.Device

/-!
# Platforms

A `Platform` is a device together with the calls made to it, each with its time. It loses no
command. If it is asked to, it reports back every switch of the audio route.
-/

namespace InCallProximity

/-- A device, the calls made to it with their times, and the routes it will report back. -/
structure Platform where
  device : Device
  /-- in the order in which they were made -/
  calls : List (Nat × PlatformCall)
  /-- whether switches of the audio route are reported back -/
  reports : Bool
  /-- routes that were set and not reported yet -/
  unreported : List AudioRoute
deriving DecidableEq

namespace Platform

/-- A platform to which no call was made. -/
def idle (reports : Bool) : Platform := ⟨.idle, [], reports, []⟩

/-- The route that a call sets. -/
def routeSet? : PlatformCall → Option AudioRoute
  | .route route => some route
  | _ => none

/-- Takes over the state of the device after some calls, and notes the calls with their time. -/
def note (p : Platform) (device : Device) (now : Nat) (calls : List PlatformCall) : Platform :=
  { p with
    device
    calls := p.calls ++ calls.map (now, ·)
    unreported := p.unreported ++ if p.reports then calls.filterMap routeSet? else [] }

/-- Hands over a command at a time. -/
def dispatch (p : Platform) (now : Nat) (command : Command) : Platform :=
  let (device, calls) := p.device.dispatch now command
  p.note device now calls

/-- Lets the timer ring at a time. -/
def ring (p : Platform) (now : Nat) : Platform :=
  let (device, calls) := p.device.ring
  p.note device now calls

instance : CommandSink Platform where
  dispatch p now command := (p.dispatch now command, true)
  deadline? p := p.device.timer.deadline?
  ring := ring
  report p := ({ p with unreported := [] }, p.unreported)

end Platform

end InCallProximity
