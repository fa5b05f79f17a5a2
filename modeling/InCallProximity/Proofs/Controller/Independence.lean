import InCallProximity.Proofs.Controller.Readings
import InCallProximity.Proofs.Controller.Sides
import InCallProximity.Proofs.Controller.Transition

/-!
# The two decisions are independent

What blanks the screen and what moves the audio do not depend on each other. The blanking and the
sensors make one side of a controller (`screen`), the switch to the speaker makes the other
(`audio`). Each step of taking up an event is one side's own and silent to the other. The screen is
blind to samples of the proximity sensor, and does not see settings or times (`screen.unwinds`); the
audio is blind to all but the phase, the route and the samples (`audio.unwinds`). So two runs that
only differ in what a side does not see come out the same to it.
-/

namespace InCallProximity

/-- The commands about the trigger and the sensors, in order. -/
def Command.hardware (commands : List Command) : List Command :=
  commands.filter fun command => !command.isRoute

/-- The event is a sample of the proximity sensor. -/
def Event.isSample (event : Event) : Bool := event.kind = .proximityRawSample

/-- The event bears on where the audio goes. -/
def Event.bearsOnRoute (event : Event) : Bool :=
  match event.kind with
  | .callPhaseChanged | .audioRouteChanged | .proximityRawSample => true
  | .orientationChanged | .displayStateChanged | .uiVisibilityChanged | .dialpadVisibilityChanged
  | .videoCallFlagsChanged => false

namespace Controller

/-- A controller in step has nothing to change about the trigger. -/
theorem InStep.followBlanking_eq {c : Controller} (inStep : c.InStep) (alive : c.tornDown = false) :
    c.followBlanking = (c, []) := by
  have armed : c.snapshot.blanking.arm = c.blanking.armed := by
    have asked := inStep .blanking
    rw [alive] at asked
    exact asked.symm
  unfold followBlanking Blanking.update
  rw [if_pos armed]
  rfl

/-! ## The screen -/

/-- The trigger and the sensors, and what they depend on. -/
def screen : Side where
  keep c := { c with snapshot := c.snapshot.set (.proximity .far), speaker := .initial }
  owns command := !command.isRoute

/-- The event that the screen sees of an arrival: any that is no sample, whatever its settings and
time. -/
def screenSees? (arrival : Arrival) : Option Event :=
  Option.guard (fun event => !event.isSample) arrival.event

namespace screen

theorem keep_set {c d : Controller} (same : screen.keep c = screen.keep d) (signal : Signal) :
    screen.keep (c.set signal) = screen.keep (d.set signal) := by
  have commutes : ∀ c : Controller,
      screen.keep (c.set signal) = screen.keep ((screen.keep c).set signal) := by
    intro c
    cases signal with
    | ui visibility =>
      cases visibility with
      | showing => rfl
      | backgrounded =>
        unfold set
        rw [Snapshot.set_backgrounded, Snapshot.set_backgrounded]
        rfl
    | _ => rfl
  rw [commutes, commutes d, same]

theorem of_aside {c : Controller} {outcome : Outcome} (aside : outcome.Aside c) :
    screen.of outcome = (screen.keep outcome.1, outcome.2) := by
  refine Prod.ext rfl (List.filter_eq_self.mpr fun command member => ?_)
  have notRoute := List.filter_eq_nil_iff.mp aside.routes command member
  change (!command.isRoute) = true
  rw [Bool.eq_false_iff.mpr notRoute]
  rfl

theorem followSensing_own (forget : Bool) : screen.Own (followSensing forget) := by
  intro c
  rw [of_aside (c.followSensing_aside forget)]
  refine Prod.ext ?_ rfl
  unfold followSensing
  dsimp only
  split_ifs with forgets forgetsToo forgetsToo
  · rfl
  · exact absurd forgets forgetsToo
  · exact absurd forgetsToo forgets
  · rfl

theorem followBlanking_own : screen.Own followBlanking := by
  intro c
  rw [of_aside c.followBlanking_aside]
  rfl

theorem followReading_silent (settings : Settings) (now : Nat) :
    screen.Silent (followReading settings now) := by
  intro c
  refine Prod.ext rfl (List.filter_eq_nil_iff.mpr fun command member => ?_)
  change ¬ (!command.isRoute) = true
  rw [c.speaker.read_isRoute _ _ settings now command member]
  exact Bool.false_ne_true

theorem teardown_own : screen.Own teardown := by
  intro c
  unfold teardown
  rcases c with ⟨snapshot, ⟨armed⟩, ⟨_ | owed⟩, ⟨callActive, orientation⟩, tornDown⟩ <;>
    cases tornDown <;> cases armed <;> cases callActive <;> cases orientation <;> rfl

variable {c d : Controller}

theorem follow_alike (same : screen.keep c = screen.keep d)
    (signal : Signal) (forget : Bool) :
    screen.of (((c.set signal).followSensing forget).andThen followBlanking) =
      screen.of (((d.set signal).followSensing forget).andThen followBlanking) :=
  followBlanking_own.alike.of_andThen ((followSensing_own forget).alike _ _ (keep_set same signal))

/-- Settings and times have no part in what the screen makes of an event other than a sample, and
neither has what it does not keep. -/
theorem take_alike {event : Event} (other : event.isSample = false)
    (settings settingsToo : Settings) (now nowToo : Nat) :
    screen.Alike (take · settings now event) (take · settingsToo nowToo event) := by
  intro c d same
  cases event with
  | callPhaseChanged phase =>
    -- whether the last reading counts once more is nothing to the screen
    have unread : ∀ (c : Controller) (settings : Settings) (now : Nat),
        screen.of (c.take settings now (.callPhaseChanged phase)) =
          screen.of (((c.set (.phase phase)).followSensing false).andThen followBlanking) := by
      intro c settings now
      dsimp only [take]
      split
      · exact (followReading_silent settings now).of_andThen _
      · rfl
    rw [unread, unread d]
    exact follow_alike same (.phase phase) false
  | orientationChanged orientation =>
    have senses : (screen.keep c).sensing = (screen.keep d).sensing := by rw [same]
    change c.sensing = d.sensing at senses
    dsimp only [take]
    rw [senses]
    split
    · exact followBlanking_own.alike _ _ (keep_set same _)
    · exact followBlanking_own.alike _ _ same
  | proximityRawSample distance maxRange => cases other
  | displayStateChanged isOn => exact follow_alike same (.displayOn isOn) false
  | videoCallFlagsChanged attempting isVideo =>
    have video : (screen.keep c).snapshot.video = (screen.keep d).snapshot.video := by rw [same]
    change c.snapshot.video = d.snapshot.video at video
    dsimp only [take]
    rw [video]
    exact follow_alike same (.video ⟨attempting, isVideo⟩) _
  | _ => exact followBlanking_own.alike _ _ (keep_set same _)

/-- A sample changes nothing on the screen, since the trigger is as the snapshot wants it. -/
theorem take_sample (live : c.Live) (settings : Settings) (now : Nat) (distance maxRange : Single) :
    screen.of (c.take settings now (.proximityRawSample distance maxRange)) =
      (screen.keep c, []) := by
  let sampled := c.set (.proximity (.classify distance maxRange))
  have inStep : sampled.InStep := by
    intro κ
    have asked := live.inStep κ
    cases κ <;> exact asked
  have still := (inStep.followReading settings now).followBlanking_eq live.alive
  calc screen.of (c.take settings now (.proximityRawSample distance maxRange))
      = screen.of ((sampled.followReading settings now).andThen followBlanking) := rfl
    _ = screen.of (sampled.followReading settings now) := by
        rw [screen.of_andThen, still]
        exact Prod.ext rfl (List.append_nil _)
    _ = (screen.keep sampled, []) := followReading_silent settings now sampled
    _ = (screen.keep c, []) := rfl

theorem unwinds : Unwinds screen screenSees? where
  blind := by
    rintro c ⟨event, settings, now⟩ live unseen
    rw [live.arrive_eq]
    cases event with
    | proximityRawSample distance maxRange => exact take_sample live settings now distance maxRange
    | _ => cases unseen
  alike := by
    intro c d first second event live liveToo seen seenToo same
    obtain ⟨rfl, other⟩ := Option.guard_eq_some_iff.mp seen
    obtain ⟨event, -⟩ := Option.guard_eq_some_iff.mp seenToo
    rw [live.arrive_eq, liveToo.arrive_eq, event]
    exact take_alike (Bool.not_eq_true' _ ▸ other) _ _ _ _ c d same

end screen

/-! ## The audio -/

/-- The switch to the speaker, and what it depends on. -/
def audio : Side where
  keep c :=
    { c with
      snapshot :=
        { Snapshot.initial with
          phase := c.snapshot.phase
          outgoingCall := c.snapshot.outgoingCall
          route := c.snapshot.route
          proximity := c.snapshot.proximity }
      blanking := .initial
      sensing := .initial }
  owns := Command.isRoute

/-- The arrival that the audio sees: any that bears on the route, with its settings and time. -/
def audioSees? (arrival : Arrival) : Option Arrival :=
  Option.guard (fun arrival => arrival.event.bearsOnRoute) arrival

namespace audio

theorem keep_set_ui (c : Controller) (visibility : Visibility) :
    audio.keep (c.set (.ui visibility)) = audio.keep c := by
  cases visibility with
  | showing => rfl
  | backgrounded =>
    unfold set
    rw [Snapshot.set_backgrounded]
    rfl

theorem keep_set {c d : Controller} (same : audio.keep c = audio.keep d) (signal : Signal) :
    audio.keep (c.set signal) = audio.keep (d.set signal) := by
  have commutes : ∀ c : Controller,
      audio.keep (c.set signal) = audio.keep ((audio.keep c).set signal) := by
    intro c
    cases signal with
    | ui visibility =>
      rw [keep_set_ui, keep_set_ui]
      rfl
    | _ => rfl
  rw [commutes, commutes d, same]

theorem followSensing_silent (forget : Bool) : audio.Silent (followSensing forget) := by
  intro c
  obtain ⟨orientation, followed⟩ := c.followSensing_fst forget
  refine Prod.ext ?_ (c.followSensing_aside forget).routes
  change audio.keep (c.followSensing forget).1 = _
  rw [followed]
  rfl

theorem followBlanking_silent : audio.Silent followBlanking := by
  intro c
  exact Prod.ext rfl c.followBlanking_aside.routes

theorem followReading_own (settings : Settings) (now : Nat) :
    audio.Own (followReading settings now) := by
  intro c
  exact Prod.ext rfl (List.filter_eq_self.mpr (c.speaker.read_isRoute _ _ settings now))

theorem teardown_own : audio.Own teardown := by
  intro c
  unfold teardown
  rcases c with ⟨snapshot, ⟨armed⟩, ⟨_ | owed⟩, ⟨callActive, orientation⟩, tornDown⟩ <;>
    cases tornDown <;> cases armed <;> cases callActive <;> cases orientation <;> rfl

variable {c d : Controller}

theorem of_follow (c : Controller) (forget : Bool) :
    audio.of ((c.followSensing forget).andThen followBlanking) = (audio.keep c, []) := by
  rw [followBlanking_silent.of_andThen, followSensing_silent]

theorem take_silent {event : Event} (aside : event.bearsOnRoute = false) (settings : Settings)
    (now : Nat) : audio.Silent (take · settings now event) := by
  intro c
  cases event with
  | callPhaseChanged phase => cases aside
  | audioRouteChanged route => cases aside
  | proximityRawSample distance maxRange => cases aside
  | orientationChanged orientation =>
    dsimp only [take]
    rw [followBlanking_silent]
    split <;> rfl
  | displayStateChanged isOn => exact of_follow _ false
  | uiVisibilityChanged showing =>
    dsimp only [take]
    rw [followBlanking_silent, keep_set_ui]
  | dialpadVisibilityChanged visible => exact followBlanking_silent _
  | videoCallFlagsChanged attempting isVideo => exact of_follow _ _

/-- What the audio does not keep has no part in what it makes of an event that bears on the
route. -/
theorem take_alike {event : Event} (bears : event.bearsOnRoute = true) (settings : Settings)
    (now : Nat) : audio.Alike (take · settings now event) (take · settings now event) := by
  intro c d same
  cases event with
  | callPhaseChanged phase =>
    have connects : (audio.keep c).connects phase = (audio.keep d).connects phase := by rw [same]
    change c.connects phase = d.connects phase at connects
    have followed : audio.of (((c.set (.phase phase)).followSensing false).andThen followBlanking) =
        audio.of (((d.set (.phase phase)).followSensing false).andThen followBlanking) := by
      rw [of_follow, of_follow, keep_set same]
    dsimp only [take]
    rw [connects]
    split
    · exact (followReading_own settings now).alike.of_andThen followed
    · exact followed
  | audioRouteChanged route =>
    exact followBlanking_silent.alike followBlanking_silent _ _ (keep_set same _)
  | proximityRawSample distance maxRange =>
    dsimp only [take]
    rw [followBlanking_silent.of_andThen, followBlanking_silent.of_andThen]
    exact (followReading_own settings now).alike _ _ (keep_set same _)
  | orientationChanged orientation => cases bears
  | displayStateChanged isOn => cases bears
  | uiVisibilityChanged showing => cases bears
  | dialpadVisibilityChanged visible => cases bears
  | videoCallFlagsChanged attempting isVideo => cases bears

theorem unwinds : Unwinds audio audioSees? where
  blind := by
    intro c arrival live unseen
    rw [live.arrive_eq]
    have aside := Option.guard_eq_none_iff.mp unseen
    exact take_silent aside _ _ c
  alike := by
    intro c d first second seen live liveToo sees seesToo same
    obtain ⟨rfl, bears⟩ := Option.guard_eq_some_iff.mp sees
    obtain ⟨rfl, -⟩ := Option.guard_eq_some_iff.mp seesToo
    rw [live.arrive_eq, liveToo.arrive_eq]
    exact take_alike bears _ _ c d same

end audio

/-! ## Two runs -/

/-- **The two decisions are independent.** Two runs whose events are the same but for samples of the
proximity sensor lead to the same commands about the trigger and the sensors, whatever the settings
and the times in each of them. Two runs in which the phases, the routes and the samples arrive the
same, under the same settings and at the same times, lead to the same commands about the audio
route and to the same delayed switch that is owed. Both also hold when the call screens end. -/
theorem decisions_independent (left right : List Arrival) :
    let one := initial.takeAll left
    let other := initial.takeAll right
    let oneEnded := one.andThen teardown
    let otherEnded := other.andThen teardown
    ((left.map Arrival.event).filter (!·.isSample) =
        (right.map Arrival.event).filter (!·.isSample) →
      Command.hardware one.2 = Command.hardware other.2 ∧
        Command.hardware oneEnded.2 = Command.hardware otherEnded.2) ∧
    (left.filter (·.event.bearsOnRoute) = right.filter (·.event.bearsOnRoute) →
      (Command.routes one.2 = Command.routes other.2 ∧
        one.1.speaker.owed = other.1.speaker.owed) ∧
      (Command.routes oneEnded.2 = Command.routes otherEnded.2 ∧
        oneEnded.1.speaker.owed = otherEnded.1.speaker.owed)) := by
  intro one other oneEnded otherEnded
  constructor
  · intro sameEvents
    have sights : left.filterMap screenSees? = right.filterMap screenSees? := by
      rw [← List.filterMap_eq_filter, List.filterMap_map, List.filterMap_map] at sameEvents
      exact sameEvents
    have same := screen.unwinds.takeAll initial_live initial_live rfl sights
    have ended := screen.teardown_own.alike.of_andThen same
    exact ⟨congrArg Prod.snd same, congrArg Prod.snd ended⟩
  · intro sameArrivals
    have sights : left.filterMap audioSees? = right.filterMap audioSees? := by
      rw [← List.filterMap_eq_filter] at sameArrivals
      exact sameArrivals
    have same := audio.unwinds.takeAll initial_live initial_live rfl sights
    have ended := audio.teardown_own.alike.of_andThen same
    have owed : ∀ {one other : Outcome}, audio.of one = audio.of other →
        one.1.speaker.owed = other.1.speaker.owed := by
      intro one other same
      have kept : (audio.of one).1.speaker.owed = (audio.of other).1.speaker.owed := by rw [same]
      exact kept
    exact ⟨⟨congrArg Prod.snd same, owed same⟩, ⟨congrArg Prod.snd ended, owed ended⟩⟩

/-- A sample leaves the trigger and the sensors as they are, and a display that goes dark leaves the
audio as it is. -/
theorem sample_and_display_apart :
    let call : Arrival := ⟨.callPhaseChanged .activeOffHook, ⟨true, false, 3000⟩, 0⟩
    let later : Arrival := ⟨.callPhaseChanged .activeOffHook, ⟨false, true, 10⟩, 7⟩
    let near : Arrival := ⟨.proximityRawSample ⟨false, 0⟩ ⟨false, 1⟩, ⟨true, false, 3000⟩, 5⟩
    let dark : Arrival := ⟨.displayStateChanged false, ⟨false, false, 0⟩, 6⟩
    Command.hardware (initial.takeAll [call, near]).2 =
        Command.hardware (initial.takeAll [later]).2 ∧
      Command.routes (initial.takeAll [call, dark, near]).2 =
        Command.routes (initial.takeAll [call, near]).2 ∧
      Command.routes (initial.takeAll [call, near]).2 = [.scheduleRouteSwitch .speaker 3000] := by
  intro call later near dark
  refine ⟨?_, ?_, by decide⟩
  · exact ((decisions_independent [call, near] [later]).1 rfl).1
  · exact ((decisions_independent [call, dark, near] [call, near]).2 rfl).1.1

end Controller

end InCallProximity
