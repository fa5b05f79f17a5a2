import InCallProximity.Command
import InCallProximity.RouteTimer

/-!
# The device

What the platform can do, and how commands become calls to it. The blanking trigger is guarded:
while it is held it is not acquired again, and while it is not held it is not released. Delayed
switches go through the timer; all other commands become calls at once.
-/

namespace InCallProximity

/-- A call to the platform. -/
inductive PlatformCall where
  /-- acquire the blanking trigger -/
  | acquire
  /-- release it, with the screen on at once or not -/
  | release (immediate : Bool)
  | orientation (enabled : Bool)
  | proximity (enabled : Bool)
  | route (route : AudioRoute)
deriving DecidableEq

/-- What is known of the platform between two calls. -/
structure Device where
  /-- the blanking trigger is held -/
  held : Bool
  timer : RouteTimer
deriving DecidableEq

namespace Device

/-- Nothing is held and no switch waits. -/
def idle : Device := ⟨false, .idle⟩

/-- Carries out a command: the calls that it leads to now. -/
def dispatch (d : Device) (now : Nat) : Command → Device × List PlatformCall
  | .acquireBlankTrigger => ({ d with held := true }, if d.held then [] else [.acquire])
  | .releaseBlankTrigger immediate =>
    ({ d with held := false }, if d.held then [.release immediate] else [])
  | .startOrientationSensing => (d, [.orientation true])
  | .stopOrientationSensing => (d, [.orientation false])
  | .startProximitySensing => (d, [.proximity true])
  | .stopProximitySensing => (d, [.proximity false])
  | .scheduleRouteSwitch target delay =>
    ({ d with timer := d.timer.schedule now target delay }, [])
  | .cancelScheduledRouteSwitch => ({ d with timer := d.timer.cancel }, [])
  | .setRoute target => (d, [.route target])

/-- Lets the timer ring; the route of the waiting switch is set. -/
def ring (d : Device) : Device × List PlatformCall :=
  let (timer, route) := d.timer.ring
  ({ d with timer }, (route.map .route).toList)

end Device

end InCallProximity
