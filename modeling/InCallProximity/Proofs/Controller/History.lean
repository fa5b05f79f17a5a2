import InCallProximity.Proofs.Controller.Transition
import Mathlib.Data.List.DropRight

/-!
# What the events so far say

Each signal of the snapshot is read off the events alone, without a snapshot: it is the value of the
last event that counts for it (`Channel`). Whether an event counts can depend on the events before
it (`Occasion`): the call screen is hidden only while the display is on, and an orientation counts
only while the call is connected and the display is on, and only until the connected call or the
video begins or ends (`sinceTurn`).

An event changes what the events say in the way that it changes a snapshot (`snapshot_concat`). So
the snapshot of a controller is what the events so far say, whatever the settings and the times
were.
-/

namespace InCallProximity

/-- An event, with the events before it. -/
structure Occasion where
  past : List Event
  event : Event
deriving DecidableEq

namespace History

/-- The events after a past, each with those before it. -/
def occasionsAfter (past : List Event) : List Event → List Occasion
  | [] => []
  | event :: rest => ⟨past, event⟩ :: occasionsAfter (past ++ [event]) rest

/-- All events of a history, each with those before it. -/
def occasions (history : List Event) : List Occasion := occasionsAfter [] history

/-- How one value is read off events. -/
structure Channel (α : Type) where
  /-- the value before any event counts -/
  default : α
  /-- the value of an event, if it counts -/
  value? : Occasion → Option α

/-- The value of the last event that counts. -/
def Channel.last {α : Type} (channel : Channel α) (occasions : List Occasion) : α :=
  (occasions.filterMap channel.value?).getLast?.getD channel.default

/-- The value of a channel after a history. -/
def Channel.after {α : Type} (channel : Channel α) (history : List Event) : α :=
  channel.last (occasions history)

/-! ## The signals -/

/-- The phase is that of the last event about the phase. -/
def phase : Channel CallPhase where
  default := .idle
  value?
    | ⟨_, .callPhaseChanged phase⟩ => some phase
    | _ => none

/-- The last phase other than a connected call says whether the user placed the call. -/
def placedByUser : Channel Bool where
  default := false
  value?
    | ⟨_, .callPhaseChanged .activeOffHook⟩ => none
    | ⟨_, .callPhaseChanged phase⟩ => some (phase = .outgoing)
    | _ => none

/-- The route is that of the last event about the route. -/
def route : Channel AudioRoute where
  default := .earpiece
  value?
    | ⟨_, .audioRouteChanged route⟩ => some route
    | _ => none

/-- The reading is that of the last sample, and far before the first one. -/
def proximity : Channel Proximity where
  default := .far
  value?
    | ⟨_, .proximityRawSample distance maxRange⟩ => some (.classify distance maxRange)
    | _ => none

/-- The dialpad is as the last event about it said. -/
def dialpadVisible : Channel Bool where
  default := false
  value?
    | ⟨_, .dialpadVisibilityChanged visible⟩ => some visible
    | _ => none

/-- The flags are those of the last event about video. -/
def video : Channel VideoFlags where
  default := .off
  value?
    | ⟨_, .videoCallFlagsChanged attempting isVideo⟩ => some ⟨attempting, isVideo⟩
    | _ => none

/-- The display is as the last event about it said, and on before the first one. -/
def displayOn : Channel Bool where
  default := true
  value?
    | ⟨_, .displayStateChanged isOn⟩ => some isOn
    | _ => none

/-- A call screen that disappears counts only while the display is on. -/
def ui : Channel Visibility where
  default := .showing
  value?
    | ⟨_, .uiVisibilityChanged true⟩ => some .showing
    | ⟨past, .uiVisibilityChanged false⟩ =>
      if displayOn.after past then some .backgrounded else none
    | _ => none

/-- After a history the call is connected. -/
def isOffHook (history : List Event) : Bool := phase.after history = .activeOffHook

/-- An orientation counts only during a connected call, and only while the display is on. -/
def orientation : Channel Orientation where
  default := .unknown
  value?
    | ⟨past, .orientationChanged orientation⟩ =>
      if isOffHook past && displayOn.after past then some orientation else none
    | _ => none

/-- With an event the connected call or the video begins or ends. -/
def turns (occasion : Occasion) : Bool :=
  let present := occasion.past ++ [occasion.event]
  isOffHook present ≠ isOffHook occasion.past ||
    (video.after present).isVideo ≠ (video.after occasion.past).isVideo

/-- The events since the last turn. -/
def sinceTurn (history : List Event) : List Occasion :=
  (occasions history).rtakeWhile fun occasion => !turns occasion

/-- What the events so far say. An orientation is worth nothing after a turn. -/
def snapshot (history : List Event) : Snapshot where
  phase := phase.after history
  outgoingCall := placedByUser.after history
  route := route.after history
  orientation := orientation.last (sinceTurn history)
  proximity := proximity.after history
  ui := ui.after history
  dialpadVisible := dialpadVisible.after history
  video := video.after history
  displayOn := displayOn.after history

/-! ## One event more -/

theorem occasions_concat (history : List Event) (event : Event) :
    occasions (history ++ [event]) = occasions history ++ [⟨history, event⟩] := by
  have after : ∀ past, occasionsAfter past (history ++ [event]) =
      occasionsAfter past history ++ [⟨past ++ history, event⟩] := by
    induction history with
    | nil =>
      intro past
      rw [List.append_nil]
      rfl
    | cons first rest ih =>
      intro past
      change ⟨past, first⟩ :: occasionsAfter (past ++ [first]) (rest ++ [event]) = _
      rw [ih, List.append_assoc]
      rfl
  exact after []

theorem Channel.last_concat {α : Type} (channel : Channel α) (occasions : List Occasion)
    (latest : Occasion) :
    channel.last (occasions ++ [latest]) =
      (channel.value? latest).getD (channel.last occasions) := by
  unfold last
  rw [List.filterMap_append, List.getLast?_append]
  cases counts : channel.value? latest with
  | none => rw [List.filterMap_cons_none counts]; rfl
  | some value => rw [List.filterMap_cons_some counts]; rfl

@[simp] theorem Channel.after_concat {α : Type} (channel : Channel α) (history : List Event)
    (event : Event) :
    channel.after (history ++ [event]) =
      (channel.value? ⟨history, event⟩).getD (channel.after history) := by
  unfold after
  rw [occasions_concat, last_concat]

theorem sinceTurn_concat (history : List Event) (event : Event) :
    sinceTurn (history ++ [event]) =
      if turns ⟨history, event⟩ then [] else sinceTurn history ++ [⟨history, event⟩] := by
  unfold sinceTurn
  rw [occasions_concat, List.rtakeWhile_concat]
  cases turns ⟨history, event⟩ <;> rfl

variable (history : List Event) (event : Event)

/-- Apart from the orientation, an event changes only that its signal is received. -/
theorem snapshot_concat_eq_receive :
    snapshot (history ++ [event]) =
      ((snapshot history).receive event).set
        (.orientation (orientation.last (sinceTurn (history ++ [event])))) := by
  unfold snapshot
  simp only [Channel.after_concat]
  cases event with
  | callPhaseChanged phase => cases phase <;> rfl
  | orientationChanged reported =>
    rw [Snapshot.receive_orientation]
    rfl
  | uiVisibilityChanged showing =>
    cases showing with
    | true => rfl
    | false =>
      change _ = Snapshot.set (Snapshot.set _ (.ui .backgrounded)) _
      rw [Snapshot.set_backgrounded]
      dsimp only [ui]
      split <;> rfl
  | _ => rfl

theorem orientation_receive :
    ((snapshot history).receive event).orientation =
      (orientation.value? ⟨history, event⟩).getD (orientation.last (sinceTurn history)) := by
  cases event with
  | orientationChanged reported =>
    rw [Snapshot.receive_orientation]
    dsimp only [orientation]
    change (if isOffHook history && displayOn.after history then _ else _) = _
    split <;> rfl
  | uiVisibilityChanged showing =>
    cases showing with
    | true => rfl
    | false => exact congrArg Snapshot.orientation (Snapshot.set_backgrounded _)
  | _ => rfl

theorem turns_receive :
    (snapshot history).turns ((snapshot history).receive event) = turns ⟨history, event⟩ := by
  have received := snapshot_concat_eq_receive history event
  have offHook : ((snapshot history).receive event).isOffHook = isOffHook (history ++ [event]) := by
    unfold Snapshot.isOffHook isOffHook
    exact congrArg (fun s : Snapshot => decide (s.phase = .activeOffHook)) received.symm
  have video : ((snapshot history).receive event).video = video.after (history ++ [event]) :=
    congrArg Snapshot.video received.symm
  unfold Snapshot.turns turns
  rw [offHook, video]
  rfl

/-- What the events say changes with one more as a snapshot does that takes it up. -/
theorem snapshot_concat :
    snapshot (history ++ [event]) = (snapshot history).take event := by
  rw [snapshot_concat_eq_receive, sinceTurn_concat, ← turns_receive]
  unfold Snapshot.take
  dsimp only
  split
  · rfl
  · rw [orientation.last_concat, ← orientation_receive]
    rfl

theorem snapshot_eq_foldl : snapshot history = history.foldl Snapshot.take .initial := by
  induction history using List.reverseRecOn with
  | nil => rfl
  | append_singleton before latest ih => rw [snapshot_concat, ih, List.foldl_append]; rfl

/-- **The snapshot is what the events so far say.** Whatever the settings and the times were, the
snapshot of a controller whose call screen has not ended is what the events alone say, and its
orientation is known only during a connected call. -/
theorem snapshot_of_history (arrivals : List Arrival) :
    let history := arrivals.map Arrival.event
    let s := (Controller.initial.takeAll arrivals).1.snapshot
    s = snapshot history ∧ (s.orientation ≠ .unknown → s.phase = .activeOffHook) := by
  intro history s
  constructor
  · calc s = history.foldl Snapshot.take .initial := Controller.takeAll_snapshot arrivals
      _ = snapshot history := (snapshot_eq_foldl history).symm
  · intro known
    exact of_decide_eq_true (Controller.takeAll_oriented arrivals known)

/-- While the display is dark, neither an orientation nor a hidden call screen counts. -/
theorem dark_display_hides_nothing :
    let history : List Event := [.callPhaseChanged .activeOffHook, .orientationChanged .horizontal,
      .displayStateChanged false, .orientationChanged .other, .uiVisibilityChanged false]
    let s := (Controller.initial.takeAll (history.map (⟨·, ⟨true, false, 3000⟩, 0⟩))).1.snapshot
    s = snapshot history ∧ s.ui = .showing ∧ s.orientation = .horizontal ∧
      s.phase = .activeOffHook := by
  intro history s
  obtain ⟨same, connected⟩ := snapshot_of_history (history.map (⟨·, ⟨true, false, 3000⟩, 0⟩))
  have known : s.orientation = .horizontal := by decide
  exact ⟨same, by decide, known, connected (known ▸ nofun)⟩

end History

end InCallProximity
