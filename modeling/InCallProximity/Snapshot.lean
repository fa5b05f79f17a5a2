import InCallProximity.Signal

/-!
# Snapshots

A `Snapshot` holds the latest value of every signal. `Snapshot.set` takes up one signal; most only
replace their own value, but the phase also tells who placed the call, and a call screen that
disappears while the display is off counts as showing.
-/

namespace InCallProximity

/-- The latest value of every signal. -/
structure Snapshot where
  phase : CallPhase
  /-- the call was placed by the user -/
  outgoingCall : Bool
  route : AudioRoute
  orientation : Orientation
  proximity : Proximity
  ui : Visibility
  dialpadVisible : Bool
  video : VideoFlags
  displayOn : Bool
deriving DecidableEq

/-- A new value of one signal. -/
inductive Signal where
  | phase (phase : CallPhase)
  | route (route : AudioRoute)
  | orientation (orientation : Orientation)
  | proximity (reading : Proximity)
  | ui (visibility : Visibility)
  | dialpadVisible (visible : Bool)
  | video (video : VideoFlags)
  | displayOn (on : Bool)
deriving DecidableEq

namespace Snapshot

/-- Before the first signal: no call, audio at the ear, nothing close, the call screen in front of
a display that is on. -/
def initial : Snapshot where
  phase := .idle
  outgoingCall := false
  route := .earpiece
  orientation := .unknown
  proximity := .far
  ui := .showing
  dialpadVisible := false
  video := .off
  displayOn := true

/-- The call is connected. -/
def isOffHook (s : Snapshot) : Bool := s.phase = .activeOffHook

/-- The device is known to lie flat. -/
def isHorizontal (s : Snapshot) : Bool := s.orientation.isHorizontal

/-- The call screen is in front. -/
def uiShowing (s : Snapshot) : Bool := s.ui = .showing

/-- Who placed the call after a phase: dialling makes it the user's, ringing and the end of a call
make it nobody's, and connecting leaves it as it was. -/
def placedByUser (s : Snapshot) : CallPhase → Bool
  | .outgoing => true
  | .idle | .incoming => false
  | .activeOffHook => s.outgoingCall

/-- Takes up a signal. -/
def set (s : Snapshot) : Signal → Snapshot
  | .phase phase => { s with phase, outgoingCall := s.placedByUser phase }
  | .route route => { s with route }
  | .orientation orientation => { s with orientation }
  | .proximity proximity => { s with proximity }
  | .ui .showing => { s with ui := .showing }
  | .ui .backgrounded => if s.displayOn then { s with ui := .backgrounded } else s
  | .dialpadVisible dialpadVisible => { s with dialpadVisible }
  | .video video => { s with video }
  | .displayOn displayOn => { s with displayOn }

/-- The signal says something new. -/
def changes (s : Snapshot) (signal : Signal) : Bool := s.set signal ≠ s

end Snapshot

end InCallProximity
