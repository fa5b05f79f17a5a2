import InCallProximity.Proofs.Controller.Levels

/-!
# Readings and the commands about the audio route

The switch to the speaker takes up readings, and nothing else. A reading comes with a sample of the
proximity sensor, and once more when a dialled call connects. `Event.reading?` says so by the event
and the phase before it, apart from what a controller does. An event that brings a reading leads to
the route commands that the switch to the speaker answers with (`handle_of_reading`); any other
event leads to none (`handle_of_no_reading`).

The answer asks for a delayed switch exactly if the reading is `Eligible`, and then it asks for the
speaker after the delay that the settings say (`response?_eq_schedule_iff`).
-/

namespace InCallProximity

/-- The command is about the audio route. -/
def Command.isRoute : Command → Bool
  | .scheduleRouteSwitch _ _ | .cancelScheduledRouteSwitch | .setRoute _ => true
  | .acquireBlankTrigger | .releaseBlankTrigger _ | .startOrientationSensing
  | .stopOrientationSensing | .startProximitySensing | .stopProximitySensing => false

/-- The reading that an event brings to the switch to the speaker, if it comes in a phase and after
a last reading: that of its sample, or the last one once more when a call that was dialled
connects. -/
def Event.reading? (phase : CallPhase) (last : Proximity) : Event → Option Proximity
  | .proximityRawSample distance maxRange => some (.classify distance maxRange)
  | .callPhaseChanged .activeOffHook => if phase = .outgoing then some last else none
  | _ => none

/-- A reading moves the audio to the speaker after the delay: something is near during a connected
call at the ear, the user wants it, and the call is not one that the user restricted it from. -/
structure Eligible (reading : Proximity) (s : Snapshot) (settings : Settings) : Prop where
  near : reading = .near
  connected : s.phase = .activeOffHook
  atEar : s.route = .earpiece
  auto : settings.autoSpeaker = true
  unrestricted : ¬ (settings.inCallOnly = true ∧ s.outgoingCall = true)

namespace SpeakerSwitch

/-- Only during a connected call, only if the user wants it, and only if no device was connected
is there an answer at all. -/
theorem response?_eq_ite (reading : Proximity) (s : Snapshot) (settings : Settings) :
    response? reading s settings =
      if s.phase = .activeOffHook ∧ settings.autoSpeaker = true ∧
          (s.route = .earpiece ∨ s.route = .speaker) then
        match reading with
        | .near =>
          if s.route = .speaker ∨ (settings.inCallOnly = true ∧ s.outgoingCall = true) then none
          else some (.scheduleRouteSwitch .speaker settings.switchDelay)
        | .far => some (.setRoute .earpiece)
      else none := by
  have active : (!s.isOffHook || !settings.autoSpeaker || s.route.isExternalDevice) = true ↔
      ¬ (s.phase = .activeOffHook ∧ settings.autoSpeaker = true ∧
        (s.route = .earpiece ∨ s.route = .speaker)) := by
    unfold Snapshot.isOffHook
    cases s.route <;> simp [AudioRoute.isExternalDevice, or_iff_not_imp_left]
  have blocked : (s.route = .speaker || (settings.inCallOnly && s.outgoingCall)) = true ↔
      s.route = .speaker ∨ (settings.inCallOnly = true ∧ s.outgoingCall = true) := by
    rw [Bool.or_eq_true, Bool.and_eq_true, decide_eq_true_iff]
  unfold response?
  cases reading <;> simp only [active, blocked, ite_not]

/-- The answer to a reading asks for a delayed switch exactly if the reading is eligible. -/
theorem response?_eq_schedule_iff {reading : Proximity} {s : Snapshot} {settings : Settings}
    {target : AudioRoute} {delay : UInt64} :
    response? reading s settings = some (.scheduleRouteSwitch target delay) ↔
      Eligible reading s settings ∧ target = .speaker ∧ delay = settings.switchDelay := by
  rw [response?_eq_ite]
  constructor
  · intro response
    split at response
    · next active =>
      obtain ⟨connected, auto, own⟩ := active
      cases reading with
      | far => cases response
      | near =>
        dsimp only at response
        split at response
        · cases response
        · next free =>
          cases response
          rw [not_or] at free
          exact ⟨⟨rfl, connected, own.resolve_right free.1, auto, free.2⟩, rfl, rfl⟩
    · cases response
  · rintro ⟨⟨rfl, connected, atEar, auto, unrestricted⟩, rfl, rfl⟩
    rw [if_pos ⟨connected, auto, Or.inl atEar⟩]
    dsimp only
    rw [if_neg]
    rintro (onSpeaker | restricted)
    · rw [atEar] at onSpeaker
      cases onSpeaker
    · exact unrestricted restricted

/-- The answer to a reading switches the route at once only to the earpiece. -/
theorem earpiece_of_response? {reading : Proximity} {s : Snapshot} {settings : Settings}
    {target : AudioRoute} (response : response? reading s settings = some (.setRoute target)) :
    target = .earpiece := by
  rw [response?_eq_ite] at response
  split at response
  · cases reading with
    | far =>
      cases response
      rfl
    | near =>
      dsimp only at response
      split at response <;> cases response
  · cases response

theorem read_isRoute (speaker : SpeakerSwitch) (reading : Proximity) (s : Snapshot)
    (settings : Settings) (now : Nat) :
    ∀ command ∈ (speaker.read reading s settings now).2, command.isRoute = true := by
  intro command member
  rcases List.mem_append.mp member with cancelled | answered
  · rcases speaker with ⟨_ | owed⟩
    · cases cancelled
    · rw [List.mem_singleton.mp cancelled]
      rfl
  · rw [Option.mem_toList, response?_eq_ite] at answered
    split at answered
    · cases reading with
      | far =>
        cases answered
        rfl
      | near =>
        dsimp only at answered
        split at answered <;> cases answered
        rfl
    · cases answered

end SpeakerSwitch

/-! ## The controller and the audio route -/

/-- The commands about the audio route, in order. -/
def Command.routes (commands : List Command) : List Command := commands.filter Command.isRoute

theorem Command.routes_append (first rest : List Command) :
    Command.routes (first ++ rest) = Command.routes first ++ Command.routes rest :=
  List.filter_append first rest

/-- A command that is not about the audio route switches a capability. -/
theorem Command.exists_switch {command : Command} (aside : command.isRoute = false) :
    ∃ (κ : Capability) (on : Bool), κ.ofCommand? command = some on := by
  cases command with
  | acquireBlankTrigger => exact ⟨.blanking, true, rfl⟩
  | releaseBlankTrigger immediate => exact ⟨.blanking, false, rfl⟩
  | startOrientationSensing => exact ⟨.orientation, true, rfl⟩
  | stopOrientationSensing => exact ⟨.orientation, false, rfl⟩
  | startProximitySensing => exact ⟨.proximity, true, rfl⟩
  | stopProximitySensing => exact ⟨.proximity, false, rfl⟩
  | scheduleRouteSwitch target delay => cases aside
  | cancelScheduledRouteSwitch => cases aside
  | setRoute target => cases aside

theorem Command.eq_nil_of_silent {commands : List Command} (unrouted : Command.routes commands = [])
    (unswitched : ∀ κ : Capability, κ.switches commands = []) : commands = [] := by
  apply List.eq_nil_iff_forall_not_mem.mpr
  intro command member
  have aside := Bool.eq_false_iff.mpr (List.filter_eq_nil_iff.mp unrouted command member)
  obtain ⟨κ, on, switches⟩ := exists_switch aside
  have silent := List.filterMap_eq_nil_iff.mp (unswitched κ) command member
  rw [switches] at silent
  cases silent

namespace Controller

/-- The reading that an event brings to the switch to the speaker, after the phase and the reading
that the snapshot holds. Once the call screen is gone no event brings one. -/
def reading? (c : Controller) (event : Event) : Option Proximity :=
  if c.tornDown then none else event.reading? c.snapshot.phase c.snapshot.proximity

/-- A phase brings a reading exactly if a dialled call connects. -/
theorem reading?_callPhaseChanged (c : Controller) (phase : CallPhase) :
    (Event.callPhaseChanged phase).reading? c.snapshot.phase c.snapshot.proximity =
      if c.connects phase then some c.snapshot.proximity else none := by
  unfold connects
  cases phase <;> simp [Event.reading?]

/-- An outcome has nothing to do with the audio route. -/
structure Outcome.Aside (c : Controller) (outcome : Outcome) : Prop where
  speaker : outcome.1.speaker = c.speaker
  routes : Command.routes outcome.2 = []

variable {c : Controller}

theorem Outcome.Aside.of_set {signal : Signal} {outcome : Outcome}
    (aside : outcome.Aside (c.set signal)) : outcome.Aside c :=
  ⟨aside.speaker, aside.routes⟩

theorem Outcome.Aside.andThen {outcome : Outcome} {step : Controller → Outcome}
    (first : outcome.Aside c) (second : (step outcome.1).Aside outcome.1) :
    (outcome.andThen step).Aside c where
  speaker := second.speaker.trans first.speaker
  routes := by
    refine (Command.routes_append outcome.2 (step outcome.1).2).trans ?_
    rw [first.routes, second.routes, List.append_nil]

theorem followSensing_aside (c : Controller) (forget : Bool) :
    (c.followSensing forget).Aside c := by
  constructor
  · obtain ⟨orientation, followed⟩ := c.followSensing_fst forget
    rw [followed]
  · change Command.routes (c.sensing.update c.snapshot).2.commands = []
    unfold Sensing.update
    rcases c.sensing with ⟨callActive, orientation⟩
    rcases Sensing.wanted c.snapshot with ⟨nextActive, nextOrientation⟩
    cases callActive <;> cases orientation <;> cases nextActive <;> cases nextOrientation <;> rfl

theorem followBlanking_aside (c : Controller) : c.followBlanking.Aside c := by
  constructor
  · rw [followBlanking_fst]
  · change Command.routes (c.blanking.update c.snapshot).2.toList = []
    unfold Blanking.update
    rcases c.blanking with ⟨armed⟩
    rcases c.snapshot.blanking with ⟨screenOn, arm⟩
    cases armed <;> cases arm <;> rfl

theorem followSensing_followBlanking_aside (c : Controller) (forget : Bool) :
    ((c.followSensing forget).andThen followBlanking).Aside c :=
  (c.followSensing_aside forget).andThen (followBlanking_aside _)

/-- A reading's outcome is what the switch to the speaker makes of it in the snapshot that the
controller ends up with. -/
structure Outcome.Answers (c : Controller) (reading : Proximity) (settings : Settings) (now : Nat)
    (outcome : Outcome) : Prop where
  speaker : outcome.1.speaker = (c.speaker.read reading outcome.1.snapshot settings now).1
  routes : Command.routes outcome.2 = (c.speaker.read reading outcome.1.snapshot settings now).2

theorem Outcome.Answers.of_set {signal : Signal} {reading : Proximity} {settings : Settings}
    {now : Nat} {outcome : Outcome}
    (answers : outcome.Answers (c.set signal) reading settings now) :
    outcome.Answers c reading settings now :=
  ⟨answers.speaker, answers.routes⟩

theorem followReading_answers (c : Controller) (settings : Settings) (now : Nat) :
    (c.followReading settings now).Answers c c.snapshot.proximity settings now where
  speaker := rfl
  routes := List.filter_eq_self.mpr (c.speaker.read_isRoute _ _ settings now)

/-- A reading is answered the same whatever was done aside before it. -/
theorem Outcome.Aside.andThen_followReading {outcome : Outcome} (first : outcome.Aside c)
    (settings : Settings) (now : Nat) :
    (outcome.andThen (followReading settings now)).Answers c outcome.1.snapshot.proximity
      settings now := by
  have answers := outcome.1.followReading_answers settings now
  rcases outcome with ⟨next, commands⟩
  obtain ⟨speaker, routes⟩ := first
  constructor
  · refine answers.speaker.trans ?_
    rw [speaker]
    rfl
  · refine (Command.routes_append commands (next.followReading settings now).2).trans ?_
    rw [routes, List.nil_append, answers.routes, speaker]
    rfl

/-- A reading is answered the same whatever is done aside after it, if the snapshot stays. -/
theorem Outcome.Answers.andThen {outcome : Outcome} {step : Controller → Outcome}
    {reading : Proximity} {settings : Settings} {now : Nat}
    (answers : outcome.Answers c reading settings now)
    (aside : (step outcome.1).Aside outcome.1)
    (stays : (step outcome.1).1.snapshot = outcome.1.snapshot) :
    (outcome.andThen step).Answers c reading settings now := by
  have snapshot : (outcome.andThen step).1.snapshot = outcome.1.snapshot := stays
  constructor
  · rw [snapshot]
    exact aside.speaker.trans answers.speaker
  · rw [snapshot]
    refine (Command.routes_append outcome.2 (step outcome.1).2).trans ?_
    rw [aside.routes, List.append_nil]
    exact answers.routes

theorem followSensing_followBlanking_proximity (c : Controller) (forget : Bool) :
    ((c.followSensing forget).andThen followBlanking).1.snapshot.proximity =
      c.snapshot.proximity := by
  obtain ⟨orientation, followed⟩ := c.followSensing_fst forget
  change (c.followSensing forget).1.followBlanking.1.snapshot.proximity = _
  rw [followBlanking_fst, followed]

/-- An event that brings a reading is answered by the switch to the speaker. -/
theorem handle_of_reading {event : Event} {reading : Proximity}
    (reads : c.reading? event = some reading) (settings : Settings) (now : Nat) :
    (c.handle event settings now).Answers c reading settings now := by
  unfold reading? at reads
  unfold handle
  split at reads
  · cases reads
  · next alive =>
    rw [if_neg alive]
    cases event with
    | callPhaseChanged phase =>
      rw [reading?_callPhaseChanged] at reads
      split at reads
      · next connects =>
        cases reads
        dsimp only [take]
        rw [if_pos connects]
        have answers := ((c.set (.phase phase)).followSensing_followBlanking_aside
          false).andThen_followReading settings now
        rw [followSensing_followBlanking_proximity] at answers
        exact answers.of_set
      · cases reads
    | proximityRawSample distance maxRange =>
      cases reads
      have answers := ((c.set (.proximity (.classify distance maxRange))).followReading_answers
        settings now).andThen (followBlanking_aside _) (by rw [followBlanking_fst])
      exact answers.of_set
    | _ => cases reads

/-- An event that brings no reading has nothing to do with the audio route. -/
theorem handle_of_no_reading {event : Event} (reads : c.reading? event = none)
    (settings : Settings) (now : Nat) : (c.handle event settings now).Aside c := by
  unfold reading? at reads
  unfold handle
  split at reads
  · next gone =>
    rw [if_pos gone]
    exact ⟨rfl, rfl⟩
  · next alive =>
    rw [if_neg alive]
    cases event with
    | callPhaseChanged phase =>
      rw [reading?_callPhaseChanged] at reads
      split at reads
      · cases reads
      · next connects =>
        dsimp only [take]
        rw [if_neg connects]
        exact (followSensing_followBlanking_aside _ false).of_set
    | proximityRawSample distance maxRange => cases reads
    | audioRouteChanged route => exact (followBlanking_aside _).of_set
    | orientationChanged orientation =>
      dsimp only [take]
      split
      · exact (followBlanking_aside _).of_set
      · exact c.followBlanking_aside
    | displayStateChanged isOn => exact (followSensing_followBlanking_aside _ false).of_set
    | uiVisibilityChanged showing => exact (followBlanking_aside _).of_set
    | dialpadVisibilityChanged visible => exact (followBlanking_aside _).of_set
    | videoCallFlagsChanged attempting isVideo =>
      exact (followSensing_followBlanking_aside _ _).of_set

/-- The end of the call screen takes back the delayed switch that was asked for. -/
theorem teardown_routes (alive : c.tornDown = false) :
    c.teardown.1.speaker = .initial ∧
      Command.routes c.teardown.2 = c.speaker.cancelCommands := by
  unfold teardown
  rw [if_neg (Bool.eq_false_iff.mp alive)]
  refine ⟨rfl, ?_⟩
  rcases c with ⟨_, ⟨armed⟩, ⟨_ | owed⟩, ⟨callActive, orientation⟩, _⟩ <;>
    cases armed <;> cases callActive <;> cases orientation <;> rfl

end Controller

end InCallProximity
