import InCallProximity.Platform

/-!
# Hosts

A `Host` runs a platform in time. Commands are handed over at the present time. During a `wait` a
delayed switch can come due; a `jump` moves the clock while nothing happens, so that a switch can
become overdue. Closing a host drops the delayed switch, and nothing reaches the platform after it.
-/

namespace InCallProximity

/-- A platform with a clock. -/
structure Host where
  platform : Platform
  /-- milliseconds -/
  clock : Nat
  closed : Bool
deriving DecidableEq

namespace Host

/-- An open host at time zero, with an idle platform that reports nothing back. -/
def start : Host := ⟨.idle false, 0, false⟩

/-- Hands over a command, unless the host is closed. -/
def dispatch (h : Host) (command : Command) : Host :=
  if h.closed then h else { h with platform := h.platform.dispatch h.clock command }

/-- The blanking trigger is held. -/
def isHeld (h : Host) : Bool := h.platform.device.held

/-- A delayed switch still waits. -/
def isSwitchPending (h : Host) : Bool := h.platform.device.timer.isPending

/-- Lets time pass. A switch that falls due in it is carried out at its deadline, or at once if it
is overdue. -/
def wait (h : Host) (span : Nat) : Host :=
  { h with platform := CommandSink.wait h.platform h.clock span, clock := h.clock + span }

/-- Moves the clock and nothing else. -/
def jump (h : Host) (span : Nat) : Host := { h with clock := h.clock + span }

/-- Drops the delayed switch, and lets nothing reach the platform any more. -/
def close (h : Host) : Host := { h.dispatch .cancelScheduledRouteSwitch with closed := true }

end Host

end InCallProximity
