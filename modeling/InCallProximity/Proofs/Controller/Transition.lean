import InCallProximity.Proofs.Controller.Runs

/-!
# The snapshot moves by itself

Settings, times and what was asked of the platform have no part in the snapshot. As long as the
sensors were asked for what the snapshot wants of them, the snapshot after an event is a function of
the one before it (`Snapshot.take`, `take_snapshot`): the signal of the event is received, and if
the connected call or the video then begins or ends, the orientation is forgotten. So the snapshot
of a run is a fold over the events alone (`takeAll_snapshot`).
-/

namespace InCallProximity

/-- The signal that an event reports. -/
def Event.signal : Event → Signal
  | .callPhaseChanged phase => .phase phase
  | .audioRouteChanged route => .route route
  | .orientationChanged orientation => .orientation orientation
  | .proximityRawSample distance maxRange => .proximity (.classify distance maxRange)
  | .displayStateChanged isOn => .displayOn isOn
  | .uiVisibilityChanged showing => .ui (.ofBool showing)
  | .dialpadVisibilityChanged visible => .dialpadVisible visible
  | .videoCallFlagsChanged attempting isVideo => .video ⟨attempting, isVideo⟩

namespace Snapshot

/-- Receives the signal of an event, but an orientation only while orientation is sensed. -/
def receive (s : Snapshot) (event : Event) : Snapshot :=
  if event.kind = .orientationChanged ∧ Capability.orientation.wanted s = false then s
  else s.set event.signal

/-- Between two snapshots the connected call or the video began or ended. -/
def turns (s next : Snapshot) : Bool :=
  next.isOffHook ≠ s.isOffHook || next.video.isVideo ≠ s.video.isVideo

/-- Takes up an event. What was known of the orientation is worthless if a turn comes with it. -/
def take (s : Snapshot) (event : Event) : Snapshot :=
  let next := s.receive event
  if s.turns next then next.set (.orientation .unknown) else next

variable {s next : Snapshot}

theorem turns_eq_false (offHook : next.isOffHook = s.isOffHook)
    (video : next.video.isVideo = s.video.isVideo) : s.turns next = false := by
  unfold turns
  rw [decide_eq_false (not_not_intro offHook), decide_eq_false (not_not_intro video)]
  rfl

/-- A call screen that disappears counts only while the display is on. -/
theorem set_backgrounded (s : Snapshot) :
    s.set (.ui .backgrounded) =
      { s with ui := if s.displayOn then .backgrounded else s.ui } := by
  dsimp only [set]
  split <;> rfl

theorem receive_eq_set {event : Event} (other : event.kind ≠ .orientationChanged) :
    s.receive event = s.set event.signal :=
  if_neg fun both => other both.1

theorem receive_orientation (s : Snapshot) (orientation : Orientation) :
    s.receive (.orientationChanged orientation) =
      { s with
        orientation :=
          if Capability.orientation.wanted s then orientation else s.orientation } := by
  unfold receive
  cases wanted : Capability.orientation.wanted s with
  | true => exact if_neg fun both => Bool.noConfusion both.2
  | false => exact if_pos ⟨rfl, rfl⟩

/-- Without a turn, what is received is all that an event changes. -/
theorem take_eq_of_steady {event : Event} (received : s.receive event = next)
    (offHook : next.isOffHook = s.isOffHook) (video : next.video.isVideo = s.video.isVideo) :
    s.take event = next := by
  unfold take
  rw [received]
  exact if_neg (Bool.eq_false_iff.mp (turns_eq_false offHook video))

theorem set_ui_steady (s : Snapshot) (visibility : Visibility) :
    (s.set (.ui visibility)).isOffHook = s.isOffHook ∧
      (s.set (.ui visibility)).video.isVideo = s.video.isVideo := by
  cases visibility with
  | showing => exact ⟨rfl, rfl⟩
  | backgrounded =>
    rw [set_backgrounded]
    exact ⟨rfl, rfl⟩

/-! ## The orientation -/

theorem receive_orientation_cases (s : Snapshot) (event : Event) :
    (s.receive event).orientation = s.orientation ∨ s.isOffHook = true := by
  cases event with
  | orientationChanged orientation =>
    rw [receive_orientation]
    dsimp only
    split
    · next wanted => exact Or.inr ((Bool.and_eq_true _ _).mp wanted).1
    · exact Or.inl rfl
  | uiVisibilityChanged showing =>
    cases showing with
    | true => exact Or.inl rfl
    | false =>
      have same := congrArg Snapshot.orientation s.set_backgrounded
      exact Or.inl same
  | _ => exact Or.inl rfl

/-- The orientation is known only during a connected call. -/
def Oriented (s : Snapshot) : Prop := s.orientation ≠ .unknown → s.isOffHook = true

theorem Oriented.take (oriented : s.Oriented) (event : Event) : (s.take event).Oriented := by
  intro known
  unfold Snapshot.take at known ⊢
  dsimp only at known ⊢
  split at known
  · exact absurd rfl known
  · next steady =>
    rw [if_neg steady]
    have offHook : (s.receive event).isOffHook = s.isOffHook := by
      unfold turns at steady
      rw [Bool.or_eq_true, not_or, decide_eq_true_iff, not_not] at steady
      exact steady.1
    rw [offHook]
    rcases s.receive_orientation_cases event with same | connected
    · rw [same] at known
      exact oriented known
    · exact connected

end Snapshot

namespace Controller

/-- Letting the sensors follow forgets the orientation if the connected call began or ended since
they were last asked, or if it is told to. -/
theorem followSensing_followBlanking_snapshot (c : Controller) (forget : Bool) :
    ((c.followSensing forget).andThen followBlanking).1.snapshot =
      if c.snapshot.isOffHook ≠ c.sensing.callActive || forget then
        c.snapshot.set (.orientation .unknown)
      else c.snapshot := by
  change (c.followSensing forget).1.followBlanking.1.snapshot = _
  rw [followBlanking_fst]
  unfold followSensing
  rcases update : c.sensing.update c.snapshot with ⟨sensing, change⟩
  have turned : change.callActive = decide (c.snapshot.isOffHook ≠ c.sensing.callActive) :=
    congrArg (fun updated : Sensing × Sensing.Change => updated.2.callActive) update.symm
  dsimp only
  rw [turned]
  split <;> rfl

variable {c : Controller}

/-- A signal other than the orientation, with the sensors following it, is received and brings a
turn or none. -/
theorem Sensed.follow_signal (sensed : c.Sensed) (event : Event)
    (other : event.kind ≠ .orientationChanged) {forget : Bool}
    (flips : forget =
      decide ((c.snapshot.set event.signal).video.isVideo ≠ c.snapshot.video.isVideo)) :
    (((c.set event.signal).followSensing forget).andThen followBlanking).1.snapshot =
      c.snapshot.take event := by
  have active : c.sensing.callActive = c.snapshot.isOffHook := congrArg Sensing.callActive sensed
  unfold Snapshot.take
  rw [followSensing_followBlanking_snapshot, flips, Snapshot.receive_eq_set other]
  change (if (c.snapshot.set event.signal).isOffHook ≠ c.sensing.callActive || _ then _ else _) = _
  rw [active]
  rfl

/-- While the sensors are up to date, an event changes the snapshot by itself. -/
theorem take_snapshot (sensed : c.Sensed) (settings : Settings) (now : Nat) (event : Event) :
    (c.take settings now event).1.snapshot = c.snapshot.take event := by
  cases event with
  | callPhaseChanged phase =>
    have followed := sensed.follow_signal (.callPhaseChanged phase) nofun
      (decide_eq_false (not_not_intro rfl)).symm
    dsimp only [take]
    split <;> exact followed
  | displayStateChanged isOn =>
    exact sensed.follow_signal (.displayStateChanged isOn) nofun
      (decide_eq_false (not_not_intro rfl)).symm
  | videoCallFlagsChanged attempting isVideo =>
    exact sensed.follow_signal (.videoCallFlagsChanged attempting isVideo) nofun
      (decide_eq_decide.mpr ne_comm)
  | orientationChanged orientation =>
    have senses : c.sensing.orientation = Capability.orientation.wanted c.snapshot :=
      congrArg Sensing.orientation sensed
    have received := c.snapshot.receive_orientation orientation
    dsimp only [take]
    rw [senses, Snapshot.take_eq_of_steady received rfl rfl]
    split <;> rfl
  | uiVisibilityChanged showing =>
    obtain ⟨offHook, video⟩ := c.snapshot.set_ui_steady (.ofBool showing)
    symm
    exact Snapshot.take_eq_of_steady (Snapshot.receive_eq_set nofun) offHook video
  | _ =>
    symm
    exact Snapshot.take_eq_of_steady (Snapshot.receive_eq_set nofun) rfl rfl

/-- The snapshot of a controller in step moves by itself, until the call screen is gone. -/
theorem InStep.handle_snapshot (inStep : c.InStep) (event : Event) (settings : Settings)
    (now : Nat) :
    (c.handle event settings now).1.snapshot =
      if c.tornDown then c.snapshot else c.snapshot.take event := by
  unfold handle
  cases alive : c.tornDown with
  | true => rfl
  | false =>
    rw [if_neg Bool.false_ne_true, if_neg Bool.false_ne_true]
    exact take_snapshot (inStep.sensed alive) settings now event

theorem Live.arrive_snapshot (live : c.Live) (arrival : Arrival) :
    (c.arrive arrival).1.snapshot = c.snapshot.take arrival.event := by
  unfold Controller.arrive
  rw [live.inStep.handle_snapshot, live.alive]
  rfl

theorem takeAll_snapshot (arrivals : List Arrival) :
    (initial.takeAll arrivals).1.snapshot =
      (arrivals.map Arrival.event).foldl Snapshot.take .initial := by
  induction arrivals using List.reverseRecOn with
  | nil => rfl
  | append_singleton before last ih =>
    have live := initial_live.takeAll before
    rw [takeAll_concat, List.map_append, List.foldl_append, ← ih]
    exact live.arrive_snapshot last

theorem takeAll_oriented (arrivals : List Arrival) :
    (initial.takeAll arrivals).1.snapshot.Oriented := by
  rw [takeAll_snapshot]
  refine List.foldlRecOn (arrivals.map Arrival.event) Snapshot.take (fun known => ?_) ?_
  · exact absurd rfl known
  · intro s oriented event _
    exact oriented.take event

end Controller

end InCallProximity
