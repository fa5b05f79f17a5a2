import InCallProximity.Proofs.Controller.Transition

/-!
# Signals one after another

The laws of setting signals: the last one of a kind counts (`set_set`), and two of different kinds
can be set in either order (`set_comm`), unless one hides the call screen and the other tells of the
display. An event other than an orientation sets its signal and then forgets the orientation if the
signal brings a turn (`take_of_ne_orientation`); which signals do so is told beforehand
(`turnedBy`). An orientation is set only while orientation is sensed (`take_orientation`).

From these laws follows what is left to change for an event that is taken up twice: nothing
(`take_take`).
-/

namespace InCallProximity

/-- The kind of event that reports a signal. -/
def Signal.kind : Signal → EventKind
  | .phase _ => .callPhaseChanged
  | .route _ => .audioRouteChanged
  | .orientation _ => .orientationChanged
  | .proximity _ => .proximityRawSample
  | .ui _ => .uiVisibilityChanged
  | .dialpadVisible _ => .dialpadVisibilityChanged
  | .video _ => .videoCallFlagsChanged
  | .displayOn _ => .displayStateChanged

theorem Event.signal_kind (event : Event) : event.signal.kind = event.kind := by
  cases event <;> rfl

namespace Snapshot

variable (s : Snapshot)

/-- Forgets the orientation, if a turn came. -/
def forget (s : Snapshot) (turned : Bool) : Snapshot :=
  { s with orientation := if turned then .unknown else s.orientation }

/-- A signal begins or ends the connected call or the video. -/
def turnedBy (s : Snapshot) : Signal → Bool
  | .phase phase => decide (phase = .activeOffHook) ≠ s.isOffHook
  | .video video => video.isVideo ≠ s.video.isVideo
  | .route _ | .orientation _ | .proximity _ | .ui _ | .dialpadVisible _ | .displayOn _ => false

/-! ## Setting signals -/

theorem set_ui (visibility : Visibility) :
    s.set (.ui visibility) =
      { s with ui := if visibility = .showing ∨ s.displayOn then visibility else s.ui } := by
  cases visibility with
  | showing => rfl
  | backgrounded => simp only [set_backgrounded, reduceCtorEq, false_or]

theorem set_set (signal : Signal) : (s.set signal).set signal = s.set signal := by
  cases signal with
  | phase phase => cases phase <;> rfl
  | ui visibility =>
    rw [set_ui, set_ui]
    dsimp only
    split <;> rfl
  | _ => rfl

theorem set_ui_comm (visibility : Visibility) {signal : Signal}
    (differs : signal.kind ≠ .uiVisibilityChanged)
    (unlit : signal.kind ≠ .displayStateChanged) :
    (s.set (.ui visibility)).set signal = (s.set signal).set (.ui visibility) := by
  rw [set_ui, set_ui]
  cases signal with
  | ui visibility => exact absurd rfl differs
  | displayOn on => exact absurd rfl unlit
  | _ => rfl

/-- Signals of different kinds can be set in either order, unless one tells of the call screen and
the other of the display. -/
theorem set_comm {first second : Signal} (differ : first.kind ≠ second.kind)
    (lit : ¬ (first.kind = .uiVisibilityChanged ∧ second.kind = .displayStateChanged))
    (litToo : ¬ (second.kind = .uiVisibilityChanged ∧ first.kind = .displayStateChanged)) :
    (s.set first).set second = (s.set second).set first := by
  cases first with
  | ui visibility => exact s.set_ui_comm visibility (Ne.symm differ) fun shown => lit ⟨rfl, shown⟩
  | _ =>
    cases second with
    | ui visibility =>
      symm
      exact s.set_ui_comm visibility differ fun shown => litToo ⟨rfl, shown⟩
    | _ => first | rfl | exact absurd rfl differ

/-! ## Turns -/

theorem turns_set (signal : Signal) : s.turns (s.set signal) = s.turnedBy signal := by
  cases signal with
  | phase phase =>
    have video : decide ((s.set (.phase phase)).video.isVideo ≠ s.video.isVideo) = false :=
      decide_eq_false (not_not_intro rfl)
    unfold turns
    rw [video, Bool.or_false]
    rfl
  | video video =>
    have offHook : decide ((s.set (.video video)).isOffHook ≠ s.isOffHook) = false :=
      decide_eq_false (not_not_intro rfl)
    unfold turns
    rw [offHook, Bool.false_or]
    rfl
  | ui visibility =>
    obtain ⟨offHook, video⟩ := s.set_ui_steady visibility
    exact turns_eq_false offHook video
  | _ => exact turns_eq_false rfl rfl

/-- A signal brings no turn when it is set again. -/
theorem turnedBy_set_self (signal : Signal) : (s.set signal).turnedBy signal = false := by
  cases signal with
  | phase phase => exact decide_eq_false (not_not_intro rfl)
  | video video => exact decide_eq_false (not_not_intro rfl)
  | _ => rfl

/-- Whether a signal brings a turn is told by the last signal of its kind. -/
theorem turnedBy_set {first second : Signal} (differ : first.kind ≠ second.kind) :
    (s.set first).turnedBy second = s.turnedBy second := by
  cases second with
  | phase phase =>
    cases first with
    | phase other => exact absurd rfl differ
    | ui visibility => rw [set_ui]; rfl
    | _ => rfl
  | video video =>
    cases first with
    | video other => exact absurd rfl differ
    | ui visibility => rw [set_ui]; rfl
    | _ => rfl
  | _ => rfl

theorem turnedBy_forget (turned : Bool) (signal : Signal) :
    (s.forget turned).turnedBy signal = s.turnedBy signal := by
  cases signal <;> rfl

theorem forget_forget (first second : Bool) :
    (s.forget first).forget second = s.forget (first || second) := by
  cases first <;> cases second <;> rfl

theorem forget_set (turned : Bool) {signal : Signal} (other : signal.kind ≠ .orientationChanged) :
    (s.forget turned).set signal = (s.set signal).forget turned := by
  cases turned with
  | false => rfl
  | true =>
    have differ : (Signal.orientation .unknown).kind ≠ signal.kind := Ne.symm other
    exact s.set_comm differ (fun both => nomatch both.1) fun both => nomatch both.2

/-! ## Taking up events -/

theorem take_of_ne_orientation {event : Event} (other : event.kind ≠ .orientationChanged) :
    s.take event = (s.set event.signal).forget (s.turnedBy event.signal) := by
  rw [← turns_set, ← receive_eq_set other]
  unfold take forget
  dsimp only
  split <;> rfl

theorem take_orientation (orientation : Orientation) :
    s.take (.orientationChanged orientation) =
      s.set (.orientation
        (if Capability.orientation.wanted s then orientation else s.orientation)) :=
  take_eq_of_steady (s.receive_orientation orientation) rfl rfl

/-- An event that is taken up a second time changes nothing. -/
theorem take_take (event : Event) : (s.take event).take event = s.take event := by
  by_cases other : event.kind = .orientationChanged
  · cases event with
    | orientationChanged orientation =>
      have sensed : ∀ known, Capability.orientation.wanted (s.set (.orientation known)) =
          Capability.orientation.wanted s := fun _ => rfl
      rw [take_orientation, take_orientation, sensed]
      split <;> rfl
    | _ => cases other
  · rw [take_of_ne_orientation _ other, take_of_ne_orientation _ other, turnedBy_forget,
      turnedBy_set_self, forget_set _ _ (event.signal_kind ▸ other), set_set]
    rfl

/-- An event sets its signal, and otherwise it can only bear on the orientation. -/
theorem exists_take_eq_set (event : Event) :
    ∃ orientation, s.take event = (s.set event.signal).set (.orientation orientation) := by
  by_cases other : event.kind = .orientationChanged
  · cases event with
    | orientationChanged orientation => exact ⟨_, s.take_orientation orientation⟩
    | _ => cases other
  · exact ⟨_, s.take_of_ne_orientation other⟩

end Snapshot

end InCallProximity
