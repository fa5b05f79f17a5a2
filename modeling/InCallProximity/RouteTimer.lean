import InCallProximity.Signal

/-!
# The timer behind delayed switches

At most one switch of the audio route waits for its time. Scheduling replaces it, cancelling drops
it, and once its time has come the timer can ring, which hands the route over and forgets the
switch. Times are in milliseconds.
-/

namespace InCallProximity

/-- A switch of the audio route that waits for its time. -/
structure WaitingSwitch where
  target : AudioRoute
  deadline : Nat
deriving DecidableEq

/-- The one switch that waits, if any does. -/
structure RouteTimer where
  waiting : Option WaitingSwitch
deriving DecidableEq

namespace RouteTimer

/-- Nothing waits. -/
def idle : RouteTimer := ⟨none⟩

/-- A switch waits. -/
def isPending (timer : RouteTimer) : Bool := timer.waiting.isSome

/-- The time from which on the timer can ring. -/
def deadline? (timer : RouteTimer) : Option Nat := timer.waiting.map (·.deadline)

/-- Lets a switch wait, in place of any other. -/
def schedule (_ : RouteTimer) (now : Nat) (target : AudioRoute) (delay : UInt64) : RouteTimer :=
  ⟨some ⟨target, now + delay.toNat⟩⟩

/-- Drops the waiting switch. Without one this does nothing. -/
def cancel (_ : RouteTimer) : RouteTimer := idle

/-- Hands over the route of the waiting switch. -/
def ring (timer : RouteTimer) : RouteTimer × Option AudioRoute :=
  (idle, timer.waiting.map (·.target))

end RouteTimer

end InCallProximity
