import InCallProximity.Signal

/-!
# Commands

Commands are what the platform is asked to do. A command has a kind, whose name is its tag on the
wire, and a topic under which it is announced.
-/

namespace InCallProximity

/-- A request to the platform. A repeated one asks for nothing new. -/
inductive Command where
  /-- arm the trigger that blanks the screen when something is near -/
  | acquireBlankTrigger
  /-- disarm it; unless `immediate`, a blank screen stays blank until nothing is near -/
  | releaseBlankTrigger (immediate : Bool)
  | startOrientationSensing
  | stopOrientationSensing
  | startProximitySensing
  | stopProximitySensing
  /-- switch the audio route after a delay in milliseconds, in place of any switch still to come -/
  | scheduleRouteSwitch (target : AudioRoute) (delay : UInt64)
  | cancelScheduledRouteSwitch
  /-- switch the audio route now -/
  | setRoute (target : AudioRoute)
deriving DecidableEq

/-- What a command asks for, without its details. -/
inductive CommandKind where
  | acquireBlankTrigger
  | releaseBlankTrigger
  | startOrientationSensing
  | stopOrientationSensing
  | startProximitySensing
  | stopProximitySensing
  | scheduleRouteSwitch
  | cancelScheduledRouteSwitch
  | setRoute
deriving DecidableEq

namespace CommandKind

instance : Named CommandKind where
  all := [.acquireBlankTrigger, .releaseBlankTrigger, .startOrientationSensing,
    .stopOrientationSensing, .startProximitySensing, .stopProximitySensing, .scheduleRouteSwitch,
    .cancelScheduledRouteSwitch, .setRoute]
  name
    | .acquireBlankTrigger => "acquire_blank_trigger"
    | .releaseBlankTrigger => "release_blank_trigger"
    | .startOrientationSensing => "start_orientation_sensing"
    | .stopOrientationSensing => "stop_orientation_sensing"
    | .startProximitySensing => "start_proximity_sensing"
    | .stopProximitySensing => "stop_proximity_sensing"
    | .scheduleRouteSwitch => "schedule_route_switch"
    | .cancelScheduledRouteSwitch => "cancel_scheduled_route_switch"
    | .setRoute => "set_route"

/-- The topic under which commands of a kind are announced. -/
def topic : CommandKind → String
  | .acquireBlankTrigger => "blank:acquire"
  | .releaseBlankTrigger => "blank:release"
  | .startOrientationSensing => "orientation:start"
  | .stopOrientationSensing => "orientation:stop"
  | .startProximitySensing => "proximity:start"
  | .stopProximitySensing => "proximity:stop"
  | .scheduleRouteSwitch => "route:schedule"
  | .cancelScheduledRouteSwitch => "route:cancel"
  | .setRoute => "route:set"

end CommandKind

/-- The kind of a command. -/
def Command.kind : Command → CommandKind
  | .acquireBlankTrigger => .acquireBlankTrigger
  | .releaseBlankTrigger _ => .releaseBlankTrigger
  | .startOrientationSensing => .startOrientationSensing
  | .stopOrientationSensing => .stopOrientationSensing
  | .startProximitySensing => .startProximitySensing
  | .stopProximitySensing => .stopProximitySensing
  | .scheduleRouteSwitch _ _ => .scheduleRouteSwitch
  | .cancelScheduledRouteSwitch => .cancelScheduledRouteSwitch
  | .setRoute _ => .setRoute

/-- The topic under which a command is announced, which is that of its kind. -/
def Command.topic (command : Command) : String := command.kind.topic

end InCallProximity
