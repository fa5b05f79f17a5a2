import InCallProximity.Snapshot

/-!
# Events

Events are what the platform reports. An event has a kind, whose name is its tag on the wire, and a
topic under which it is announced.
-/

namespace InCallProximity

/-- A report of the platform about the call or the device. -/
inductive Event where
  | callPhaseChanged (phase : CallPhase)
  | audioRouteChanged (route : AudioRoute)
  /-- taken up only while orientation is being sensed -/
  | orientationChanged (orientation : Orientation)
  /-- a sample of the proximity sensor, with the largest distance it can measure -/
  | proximityRawSample (distance maxRange : Single)
  | displayStateChanged (isOn : Bool)
  | uiVisibilityChanged (showing : Bool)
  | dialpadVisibilityChanged (visible : Bool)
  | videoCallFlagsChanged (attempting isVideo : Bool)
deriving DecidableEq

/-- What an event reports about, without what it reports. -/
inductive EventKind where
  | callPhaseChanged
  | audioRouteChanged
  | orientationChanged
  | proximityRawSample
  | displayStateChanged
  | uiVisibilityChanged
  | dialpadVisibilityChanged
  | videoCallFlagsChanged
deriving DecidableEq

namespace EventKind

instance : Named EventKind where
  all := [.callPhaseChanged, .audioRouteChanged, .orientationChanged, .proximityRawSample,
    .displayStateChanged, .uiVisibilityChanged, .dialpadVisibilityChanged, .videoCallFlagsChanged]
  name
    | .callPhaseChanged => "call_phase_changed"
    | .audioRouteChanged => "audio_route_changed"
    | .orientationChanged => "orientation_changed"
    | .proximityRawSample => "proximity_raw_sample"
    | .displayStateChanged => "display_state_changed"
    | .uiVisibilityChanged => "ui_visibility_changed"
    | .dialpadVisibilityChanged => "dialpad_visibility_changed"
    | .videoCallFlagsChanged => "video_call_flags_changed"

/-- The topic under which events of a kind are announced. -/
def topic : EventKind → String
  | .callPhaseChanged => "call:phase_changed"
  | .audioRouteChanged => "audio:route_changed"
  | .orientationChanged => "sensor:orientation_changed"
  | .proximityRawSample => "sensor:proximity_sample"
  | .displayStateChanged => "display:state_changed"
  | .uiVisibilityChanged => "ui:visibility_changed"
  | .dialpadVisibilityChanged => "ui:dialpad_changed"
  | .videoCallFlagsChanged => "call:video_flags_changed"

end EventKind

/-- The kind of an event. -/
def Event.kind : Event → EventKind
  | .callPhaseChanged _ => .callPhaseChanged
  | .audioRouteChanged _ => .audioRouteChanged
  | .orientationChanged _ => .orientationChanged
  | .proximityRawSample _ _ => .proximityRawSample
  | .displayStateChanged _ => .displayStateChanged
  | .uiVisibilityChanged _ => .uiVisibilityChanged
  | .dialpadVisibilityChanged _ => .dialpadVisibilityChanged
  | .videoCallFlagsChanged _ _ => .videoCallFlagsChanged

/-- The topic under which an event is announced, which is that of its kind. -/
def Event.topic (event : Event) : String := event.kind.topic

end InCallProximity
