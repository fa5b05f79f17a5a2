import InCallProximity.Proofs.Controller.Independence
import InCallProximity.Proofs.Controller.Signals

/-!
# Which event causes which commands

Each kind of event can sway only some of what the snapshot wants (`EventKind.sways`). It leads to no
command about any other capability (`Live.sways_of_concerns`), and to no more than one about each
(`concerned_le_one`).

Whatever the event, the trigger follows the snapshot that the event leads to (`take_settles`), and
that snapshot tells whether a release is immediate (`Live.release_iff`). For a release one of two
things has to come true: the phone is no longer at the ear, which only a phase tells, or the user
wants to see the screen, which no phase brings about.
-/

namespace InCallProximity

/-- An event of the kind can change whether the snapshot wants the capability on. -/
def EventKind.sways : EventKind → Capability → Bool
  | .callPhaseChanged, _ => true
  | .displayStateChanged, .orientation => true
  | .audioRouteChanged, .blanking => true
  | .orientationChanged, .blanking => true
  | .uiVisibilityChanged, .blanking => true
  | .dialpadVisibilityChanged, .blanking => true
  | .videoCallFlagsChanged, .blanking => true
  | _, _ => false

/-- Events of these kinds bring no reading, and they sway only the trigger. -/
theorem EventKind.only_blanking {kind : EventKind}
    (listed : kind ∈ [.audioRouteChanged, .orientationChanged, .uiVisibilityChanged,
      .dialpadVisibilityChanged, .videoCallFlagsChanged]) :
    kind ≠ .proximityRawSample ∧ kind ≠ .callPhaseChanged ∧
      ∀ κ, kind.sways κ = true → κ = .blanking := by
  refine ⟨?_, ?_, ?_⟩
  · rintro rfl
    exact absurd listed (by decide)
  · rintro rfl
    exact absurd listed (by decide)
  · intro κ sways
    cases κ with
    | blanking => rfl
    | _ => cases kind <;> first | exact absurd listed (by decide) | cases sways

/-- The command switches the capability. -/
def Capability.concerns (κ : Capability) (command : Command) : Bool :=
  (κ.ofCommand? command).isSome

namespace Capability

variable (κ : Capability)

theorem length_switches (commands : List Command) :
    (κ.switches commands).length = (commands.filter κ.concerns).length := by
  unfold switches
  rw [List.length_filterMap_eq_countP, List.countP_eq_length_filter]
  rfl

theorem filter_concerns_eq_nil {commands : List Command} (silent : κ.switches commands = []) :
    commands.filter κ.concerns = [] := by
  apply List.eq_nil_of_length_eq_zero
  rw [← length_switches, silent]
  rfl

end Capability

/-! ## What the snapshot wants -/

namespace Snapshot

variable (s : Snapshot)

theorem wanted_take {κ : Capability} {event : Event} (unswayed : event.kind.sways κ = false) :
    κ.wanted (s.take event) = κ.wanted s := by
  by_cases other : event.kind = .orientationChanged
  · cases event with
    | orientationChanged orientation =>
      rw [take_orientation]
      cases κ with
      | blanking => cases unswayed
      | _ => rfl
    | _ => cases other
  · rw [take_of_ne_orientation _ other]
    cases event with
    | callPhaseChanged phase => cases unswayed
    | uiVisibilityChanged showing =>
      change κ.wanted (s.set (.ui (.ofBool showing))) = _
      rw [set_ui]
      cases κ with
      | blanking => cases unswayed
      | _ => rfl
    | _ => cases κ <;> first | rfl | cases unswayed

/-- No phase makes the user want to see the screen. -/
theorem wantsScreen_take_phase (unwanted : s.wantsScreen = false) (phase : CallPhase) :
    (s.take (.callPhaseChanged phase)).wantsScreen = false := by
  have other : (Event.callPhaseChanged phase).kind ≠ .orientationChanged := nofun
  rw [take_of_ne_orientation _ other]
  change ((s.set (.phase phase)).forget _).wantsScreen = false
  -- an orientation that is forgotten is not horizontal
  unfold wantsScreen forget isHorizontal at *
  split
  · simp_all [set, uiShowing, Orientation.isHorizontal]
  · exact unwanted

theorem take_phase {event : Event} (other : event.kind ≠ .callPhaseChanged) :
    (s.take event).phase = s.phase := by
  obtain ⟨orientation, taken⟩ := s.exists_take_eq_set event
  rw [taken]
  cases event with
  | callPhaseChanged phase => exact absurd rfl other
  | uiVisibilityChanged showing =>
    change (s.set (.ui (.ofBool showing))).phase = _
    rw [set_ui]
  | _ => rfl

/-- The trigger is released when the call is no longer at the ear; no phase makes the release an
immediate one. -/
theorem disarmed_by_phase {phase : CallPhase} (armed : s.blanking.arm = true)
    (disarmed : (s.take (.callPhaseChanged phase)).blanking.arm = false) :
    (s.take (.callPhaseChanged phase)).wantsScreen = false ∧
      (phase = .idle ∨ phase = .outgoing) := by
  have unwanted : s.wantsScreen = false :=
    (Bool.not_eq_true' _).mp ((Bool.and_eq_true _ _).mp armed).2
  have still := s.wantsScreen_take_phase unwanted phase
  refine ⟨still, ?_⟩
  obtain ⟨orientation, taken⟩ := s.exists_take_eq_set (.callPhaseChanged phase)
  unfold blanking at disarmed
  rw [still, Bool.not_false, Bool.and_true, taken] at disarmed
  cases phase with
  | idle => exact Or.inl rfl
  | outgoing => exact Or.inr rfl
  | incoming => cases disarmed
  | activeOffHook => cases disarmed

/-- An event other than a phase releases the trigger only for the sake of the screen. -/
theorem disarmed_by_other {event : Event} (other : event.kind ≠ .callPhaseChanged)
    (armed : s.blanking.arm = true) (disarmed : (s.take event).blanking.arm = false) :
    (s.take event).wantsScreen = true := by
  have atEar : (s.take event).mayBeAtEar = true := by
    unfold mayBeAtEar
    rw [s.take_phase other]
    exact ((Bool.and_eq_true _ _).mp armed).1
  unfold blanking at disarmed
  rw [atEar, Bool.true_and, Bool.not_eq_false'] at disarmed
  exact disarmed

end Snapshot

/-! ## What the trigger follows -/

theorem Blanking.update_concerns (b : Blanking) (s : Snapshot) :
    (b.update s).2.toList.filter Capability.blanking.concerns = (b.update s).2.toList := by
  rcases b with ⟨armed⟩
  unfold Blanking.update
  generalize s.blanking = decision
  rcases decision with ⟨screenOn, arm⟩
  cases armed <;> cases arm <;> rfl

theorem Blanking.update_eq_release_iff (b : Blanking) (s : Snapshot) (immediate : Bool) :
    (b.update s).2 = some (.releaseBlankTrigger immediate) ↔
      b.armed = true ∧ s.blanking.arm = false ∧ immediate = s.wantsScreen := by
  have screenOn : s.blanking.screenOn = s.wantsScreen := rfl
  unfold Blanking.update
  rw [← screenOn]
  rcases b with ⟨armed⟩
  rcases s.blanking with ⟨screenOn, arm⟩
  cases armed <;> cases arm <;> simp [eq_comm]

namespace Controller

variable {c : Controller}

/-- The commands about the trigger are those by which it follows the snapshot that an outcome ends
up with. -/
def Outcome.Settles (c : Controller) (outcome : Outcome) : Prop :=
  outcome.2.filter Capability.blanking.concerns =
    (c.blanking.update outcome.1.snapshot).2.toList

theorem Outcome.Settles.of_set {signal : Signal} {outcome : Outcome}
    (settles : outcome.Settles (c.set signal)) : outcome.Settles c := settles

theorem followBlanking_settles (c : Controller) : c.followBlanking.Settles c := by
  have snapshot : c.followBlanking.1.snapshot = c.snapshot := by rw [followBlanking_fst]
  unfold Outcome.Settles
  rw [snapshot]
  exact c.blanking.update_concerns c.snapshot

/-- The trigger follows after a step that has nothing to do with it. -/
theorem Outcome.andThen_followBlanking_settles {outcome : Outcome}
    (kept : outcome.1.blanking = c.blanking)
    (silent : outcome.2.filter Capability.blanking.concerns = []) :
    (outcome.andThen followBlanking).Settles c := by
  have settles := outcome.1.followBlanking_settles
  unfold Settles at settles ⊢
  change (outcome.2 ++ outcome.1.followBlanking.2).filter _ = (c.blanking.update _).2.toList
  rw [List.filter_append, silent, List.nil_append, settles, kept]
  rfl

theorem followReading_silent (c : Controller) (settings : Settings) (now : Nat) :
    (c.followReading settings now).2.filter Capability.blanking.concerns = [] :=
  Capability.blanking.filter_concerns_eq_nil (c.speaker.read_switches _ _ settings now _)

theorem followSensing_followBlanking_settles (c : Controller) (forget : Bool) :
    ((c.followSensing forget).andThen followBlanking).Settles c := by
  obtain ⟨orientation, followed⟩ := c.followSensing_fst forget
  refine Outcome.andThen_followBlanking_settles (by rw [followed]) ?_
  exact Capability.blanking.filter_concerns_eq_nil (c.sensing.update_switches c.snapshot .blanking)

theorem Outcome.Settles.andThen_followReading {outcome : Outcome} (settles : outcome.Settles c)
    (settings : Settings) (now : Nat) :
    (outcome.andThen (followReading settings now)).Settles c := by
  unfold Settles at settles ⊢
  change (outcome.2 ++ (outcome.1.followReading settings now).2).filter _ = _
  rw [List.filter_append, followReading_silent, List.append_nil, settles]
  rfl

/-- Whatever the event, the trigger follows the snapshot that it leads to. -/
theorem take_settles (c : Controller) (settings : Settings) (now : Nat) (event : Event) :
    (c.take settings now event).Settles c := by
  cases event with
  | callPhaseChanged phase =>
    have followed := (c.set (.phase phase)).followSensing_followBlanking_settles false
    dsimp only [take]
    split
    · exact (followed.andThen_followReading settings now).of_set
    · exact followed.of_set
  | orientationChanged orientation =>
    dsimp only [take]
    split
    · exact (followBlanking_settles _).of_set
    · exact c.followBlanking_settles
  | proximityRawSample distance maxRange =>
    let sampled := c.set (.proximity (.classify distance maxRange))
    have followed : ((sampled.followReading settings now).andThen followBlanking).Settles sampled :=
      Outcome.andThen_followBlanking_settles rfl (sampled.followReading_silent settings now)
    exact followed.of_set
  | audioRouteChanged route => exact (followBlanking_settles _).of_set
  | displayStateChanged isOn => exact (followSensing_followBlanking_settles _ false).of_set
  | uiVisibilityChanged showing => exact (followBlanking_settles _).of_set
  | dialpadVisibilityChanged visible => exact (followBlanking_settles _).of_set
  | videoCallFlagsChanged attempting isVideo =>
    exact (followSensing_followBlanking_settles _ _).of_set

/-! ## The commands of an event -/

theorem arrive_edged (c : Controller) (arrival : Arrival) : (c.arrive arrival).Edged c :=
  c.handle_edged _ _ _

theorem concerned_le_one (c : Controller) (arrival : Arrival) (κ : Capability) :
    ((c.arrive arrival).2.filter κ.concerns).length ≤ 1 := by
  rw [← κ.length_switches, c.arrive_edged arrival κ]
  exact length_edge_le_one _ _

/-- Only samples and phases bring readings. -/
theorem reading?_eq_none {event : Event} (unsampled : event.kind ≠ .proximityRawSample)
    (unphased : event.kind ≠ .callPhaseChanged) : c.reading? event = none := by
  unfold reading?
  split
  · rfl
  · cases event with
    | callPhaseChanged phase => exact absurd rfl unphased
    | proximityRawSample distance maxRange => exact absurd rfl unsampled
    | _ => rfl

namespace Live

/-- After an event a controller asks for what the snapshot wants that the event leads to. -/
theorem asked_arrive (live : c.Live) (arrival : Arrival) (κ : Capability) :
    κ.asked (c.arrive arrival).1 = κ.wanted (c.snapshot.take arrival.event) := by
  rw [(live.arrive arrival).asked_eq κ, live.arrive_snapshot]

/-- A command about a capability comes only with an event that sways it. -/
theorem sways_of_concerns (live : c.Live) {arrival : Arrival} {command : Command} {κ : Capability}
    (member : command ∈ (c.arrive arrival).2) (concerns : κ.concerns command = true) :
    arrival.event.kind.sways κ = true := by
  by_contra unswayed
  have same := c.snapshot.wanted_take (Bool.eq_false_iff.mpr unswayed)
  have silent : κ.switches (c.arrive arrival).2 = [] := by
    rw [c.arrive_edged arrival κ, live.asked_eq, live.asked_arrive, same, edge_self]
  exact List.filter_eq_nil_iff.mp (κ.filter_concerns_eq_nil silent) command member concerns

/-- An event that sways nothing leads to commands about the audio route only. -/
theorem hardware_eq_nil (live : c.Live) {arrival : Arrival}
    (unswayed : ∀ κ, arrival.event.kind.sways κ = false) :
    Command.hardware (c.arrive arrival).2 = [] := by
  apply List.filter_eq_nil_iff.mpr
  intro command member aside
  obtain ⟨κ, on, switches⟩ := Command.exists_switch ((Bool.not_eq_true' _).mp aside)
  have sways := live.sways_of_concerns member (Option.isSome_of_mem switches)
  rw [unswayed κ] at sways
  cases sways

/-- An event that brings no reading, and that sways one capability only, leads to no command or to
one about that capability. -/
theorem only_concerned (live : c.Live) {arrival : Arrival} {κ : Capability}
    (unread : c.reading? arrival.event = none)
    (only : ∀ other, arrival.event.kind.sways other = true → other = κ) :
    (c.arrive arrival).2.length ≤ 1 ∧
      ∀ command ∈ (c.arrive arrival).2, κ.concerns command = true := by
  have aside : (c.arrive arrival).Aside c :=
    handle_of_no_reading unread arrival.settings arrival.time
  have concerned : ∀ command ∈ (c.arrive arrival).2, κ.concerns command = true := by
    intro command member
    have unrouted := Bool.eq_false_iff.mpr (List.filter_eq_nil_iff.mp aside.routes command member)
    obtain ⟨other, on, switches⟩ := Command.exists_switch unrouted
    have concerns : other.concerns command = true := Option.isSome_of_mem switches
    rw [← only other (live.sways_of_concerns member concerns)]
    exact concerns
  refine ⟨?_, concerned⟩
  rw [← List.filter_eq_self.mpr concerned]
  exact c.concerned_le_one arrival κ

/-- A release goes out when the trigger was armed and the snapshot no longer wants it to be. -/
theorem release_iff (live : c.Live) (arrival : Arrival) (immediate : Bool) :
    .releaseBlankTrigger immediate ∈ (c.arrive arrival).2 ↔
      c.snapshot.blanking.arm = true ∧ (c.snapshot.take arrival.event).blanking.arm = false ∧
        immediate = (c.snapshot.take arrival.event).wantsScreen := by
  have settles := c.take_settles arrival.settings arrival.time arrival.event
  have armed : c.blanking.armed = c.snapshot.blanking.arm := live.asked_eq .blanking
  unfold Outcome.Settles at settles
  rw [← live.arrive_eq, live.arrive_snapshot] at settles
  rw [← armed, ← Blanking.update_eq_release_iff, ← Option.mem_toList, ← settles, List.mem_filter]
  exact (and_iff_left rfl).symm

/-- A release that comes with a phase leaves a blank screen blank. -/
theorem release_by_phase (live : c.Live) {arrival : Arrival} {phase : CallPhase} {immediate : Bool}
    (event : arrival.event = .callPhaseChanged phase)
    (released : .releaseBlankTrigger immediate ∈ (c.arrive arrival).2) :
    immediate = false ∧ (phase = .idle ∨ phase = .outgoing) := by
  obtain ⟨was, is, told⟩ := (live.release_iff arrival immediate).mp released
  rw [event] at is told
  obtain ⟨still, far⟩ := c.snapshot.disarmed_by_phase was is
  exact ⟨told.trans still, far⟩

/-- A release that comes with another event turns the screen on. -/
theorem release_by_other (live : c.Live) {arrival : Arrival} {immediate : Bool}
    (other : arrival.event.kind ≠ .callPhaseChanged)
    (released : .releaseBlankTrigger immediate ∈ (c.arrive arrival).2) : immediate = true := by
  obtain ⟨was, is, told⟩ := (live.release_iff arrival immediate).mp released
  exact told.trans (c.snapshot.disarmed_by_other other was is)

/-- A blank screen is left blank exactly if a phase ends the time in which the trigger is armed. -/
theorem leaves_blank_iff (live : c.Live) (arrival : Arrival) :
    .releaseBlankTrigger false ∈ (c.arrive arrival).2 ↔
      arrival.event.kind = .callPhaseChanged ∧ c.blanking.armed = true ∧
        (c.arrive arrival).1.blanking.armed = false := by
  have armed : c.blanking.armed = c.snapshot.blanking.arm := live.asked_eq .blanking
  have armedNext : (c.arrive arrival).1.blanking.armed =
      (c.snapshot.take arrival.event).blanking.arm := live.asked_arrive arrival .blanking
  rw [live.release_iff, armed, armedNext]
  refine ⟨?_, ?_⟩
  · intro ⟨was, is, told⟩
    refine ⟨?_, was, is⟩
    by_contra other
    exact Bool.false_ne_true (told.trans (c.snapshot.disarmed_by_other other was is))
  · intro ⟨phased, was, is⟩
    refine ⟨was, is, ?_⟩
    cases event : arrival.event with
    | callPhaseChanged phase =>
      rw [event] at is
      exact (c.snapshot.disarmed_by_phase was is).1.symm
    | _ =>
      rw [event] at phased
      cases phased

end Live

/-- **Which event causes which commands.** In every run of a controller whose call screen has not
ended, the next event leads to these commands:

* at most one about each capability;
* a release of the trigger that comes with a phase is not immediate, and the phase is that of no
  call or of a call that is dialled;
* a release that comes with any other event is immediate;
* a sample of the proximity sensor leads to none about the trigger or the sensors;
* the display leads to none, or to one about the orientation sensor;
* a route, an orientation, the call screen, the dialpad and the video lead to none, or to one about
  the trigger.

So a blank screen is left blank exactly if a phase ends the time in which the trigger is armed. -/
theorem commands_by_event (before : List Arrival) (next : Arrival) :
    let c := (initial.takeAll before).1
    let after := (c.arrive next).1
    let commands := (c.arrive next).2
    (∀ κ : Capability, (commands.filter κ.concerns).length ≤ 1) ∧
      (∀ phase immediate, next.event = .callPhaseChanged phase →
        .releaseBlankTrigger immediate ∈ commands →
          immediate = false ∧ (phase = .idle ∨ phase = .outgoing)) ∧
      (∀ immediate, next.event.kind ≠ .callPhaseChanged →
        .releaseBlankTrigger immediate ∈ commands → immediate = true) ∧
      (next.event.kind = .proximityRawSample → Command.hardware commands = []) ∧
      (next.event.kind = .displayStateChanged → commands.length ≤ 1 ∧
        ∀ command ∈ commands, Capability.orientation.concerns command = true) ∧
      (next.event.kind ∈ [.audioRouteChanged, .orientationChanged, .uiVisibilityChanged,
          .dialpadVisibilityChanged, .videoCallFlagsChanged] → commands.length ≤ 1 ∧
        ∀ command ∈ commands, Capability.blanking.concerns command = true) ∧
      (.releaseBlankTrigger false ∈ commands ↔
        next.event.kind = .callPhaseChanged ∧ c.blanking.armed = true ∧
          after.blanking.armed = false) := by
  intro c after commands
  have live : c.Live := initial_live.takeAll before
  refine ⟨c.concerned_le_one next, fun _ _ => live.release_by_phase,
    fun _ => live.release_by_other, ?_, ?_, ?_, live.leaves_blank_iff next⟩
  · intro sample
    apply live.hardware_eq_nil
    rw [sample]
    intro κ
    cases κ <;> rfl
  · intro display
    refine live.only_concerned (reading?_eq_none ?_ ?_) ?_
    all_goals rw [display]
    · exact nofun
    · exact nofun
    · intro κ sways
      cases κ with
      | orientation => rfl
      | _ => cases sways
  · intro listed
    obtain ⟨unsampled, unphased, only⟩ := EventKind.only_blanking listed
    exact live.only_concerned (reading?_eq_none unsampled unphased) only

/-- During a connected call, the end of the call leaves a blank screen blank, the speaker does not,
a dark display stops the orientation sensor, and a sample moves the audio alone. -/
theorem end_of_call_leaves_blank :
    let at5 : Event → Arrival := (⟨·, ⟨true, false, 3000⟩, 5⟩)
    let c := (initial.takeAll [at5 (.callPhaseChanged .activeOffHook)]).1
    let answer := fun event => (c.arrive (at5 event)).2
    let near : Event := .proximityRawSample ⟨false, 0⟩ ⟨false, 1⟩
    (.releaseBlankTrigger false ∈ answer (.callPhaseChanged .idle) ∧
        ∀ immediate, .releaseBlankTrigger immediate ∈ answer (.callPhaseChanged .idle) →
          immediate = false) ∧
      (answer (.audioRouteChanged .speaker) = [.releaseBlankTrigger true] ∧
        (∀ immediate, .releaseBlankTrigger immediate ∈ answer (.audioRouteChanged .speaker) →
          immediate = true) ∧
        (answer (.audioRouteChanged .speaker)).length ≤ 1) ∧
      (answer (.displayStateChanged false) = [.stopOrientationSensing] ∧
        (answer (.displayStateChanged false)).length ≤ 1) ∧
      answer near = [.scheduleRouteSwitch .speaker 3000] ∧ Command.hardware (answer near) = [] := by
  intro at5 c answer near
  have causes := fun event =>
    commands_by_event [at5 (.callPhaseChanged .activeOffHook)] (at5 event)
  obtain ⟨-, byPhase, -, -, -, -, left⟩ := causes (.callPhaseChanged .idle)
  obtain ⟨-, -, byOther, -, -, screen, -⟩ := causes (.audioRouteChanged .speaker)
  obtain ⟨-, -, -, -, display, -⟩ := causes (.displayStateChanged false)
  obtain ⟨-, -, -, sampled, -⟩ := causes near
  refine ⟨⟨left.mpr ⟨rfl, by decide, by decide⟩, ?_⟩, ⟨by decide, ?_, (screen (by decide)).1⟩,
    ⟨by decide, (display rfl).1⟩, by decide, sampled rfl⟩
  · exact fun immediate released => (byPhase .idle immediate rfl released).1
  · exact fun immediate => byOther immediate nofun

end Controller

end InCallProximity
