import InCallProximity.Proofs.Session.Bookkeeping

/-!
# Every switch to the speaker has its cause

Audio moves to the speaker only by the timer, and the timer waits only for what an eligible reading
asked for (`EligibleReading`). In a run, each call that switches to the speaker goes back to a
reading of its own, at least its delay earlier, since when nothing has started anew
(`waits_for_reading`, `speaker_call_caused`). And an eligible reading after which nothing starts
anew leads to one such call, once the timer has had its turn after the delay (`speaker_call_comes`).
-/

namespace InCallProximity

/-- The times at which the audio was switched to the speaker, in order. -/
def Platform.speakerTimes (p : Platform) : List Nat :=
  (p.calls.filter fun made => made.2 = .route .speaker).map Prod.fst

theorem Platform.dispatch_speakerTimes {p : Platform} {command : Command}
    (other : command ≠ .setRoute .speaker) (now : Nat) :
    (p.dispatch now command).speakerTimes = p.speakerTimes := by
  have silent : ((p.device.dispatch now command).2.map (now, ·)).filter
      (fun made : Nat × PlatformCall => made.2 = .route .speaker) = [] := by
    rcases p with ⟨⟨held, timer⟩, calls, reports, unreported⟩
    cases command with
    | setRoute target =>
      have differs : ¬ PlatformCall.route target = .route .speaker := by
        intro same
        cases same
        exact other rfl
      exact List.filter_cons_of_neg (by simpa using differs)
    | acquireBlankTrigger => cases held <;> rfl
    | releaseBlankTrigger immediate => cases held <;> rfl
    | _ => rfl
  change ((p.calls ++ (p.device.dispatch now command).2.map (now, ·)).filter _).map _ = _
  rw [List.filter_append, silent, List.append_nil]
  rfl

theorem Platform.dispatchAll_speakerTimes {p : Platform} {commands : List Command}
    (other : .setRoute .speaker ∉ commands) (now : Nat) :
    (p.dispatchAll now commands).speakerTimes = p.speakerTimes := by
  induction commands generalizing p with
  | nil => rfl
  | cons command rest ih =>
    rw [List.mem_cons, not_or] at other
    refine (ih (p := p.dispatch now command) other.2).trans ?_
    exact dispatch_speakerTimes (fun same => other.1 same.symm) now

/-- The sample that an event brings, classified. -/
def Event.sample? : Event → Option Proximity
  | .proximityRawSample distance maxRange => some (.classify distance maxRange)
  | _ => none

namespace Controller

theorem take_proximity (c : Controller) (settings : Settings) (now : Nat) (event : Event) :
    (c.take settings now event).1.snapshot.proximity =
      event.sample?.getD c.snapshot.proximity := by
  cases event with
  | callPhaseChanged phase =>
    dsimp only [take]
    split <;> exact followSensing_followBlanking_proximity (c.set (.phase phase)) false
  | displayStateChanged isOn =>
    exact followSensing_followBlanking_proximity (c.set (.displayOn isOn)) false
  | videoCallFlagsChanged attempting isVideo =>
    exact followSensing_followBlanking_proximity (c.set (.video ⟨attempting, isVideo⟩)) _
  | orientationChanged orientation =>
    dsimp only [take]
    split <;> rfl
  | uiVisibilityChanged showing =>
    cases showing with
    | true => rfl
    | false =>
      change (c.snapshot.set (.ui .backgrounded)).proximity = c.snapshot.proximity
      dsimp only [Snapshot.set]
      split <;> rfl
  | _ => rfl

end Controller

namespace Session

/-! ## Readings -/

/-- A move is an eligible reading: an event brings a reading, and it is eligible in the snapshot
after the event, under the settings of that moment. -/
def EligibleReading (s : Session Platform) (next : Move) : Prop :=
  ∃ event reading, next = .apply event ∧ s.controller.reading? event = some reading ∧
    Eligible reading (s.move next).controller.snapshot s.settings.current

/-- When a switch that is asked for now has to be carried out. -/
def dueAfterDelay (s : Session Platform) : Nat := s.clock + s.settings.current.switchDelay.toNat

theorem EligibleReading.revises {s : Session Platform} {next : Move}
    (eligible : s.EligibleReading next) : s.revises next = true := by
  obtain ⟨event, reading, rfl, reads, -⟩ := eligible
  exact Option.isSome_of_eq_some reads

theorem not_eligibleReading_teardown (s : Session Platform) : ¬ s.EligibleReading .teardown := by
  rintro ⟨event, reading, same, -⟩
  cases same

/-- After a move that starts anew a switch is owed exactly if the move is an eligible reading. -/
theorem Agrees.move_owed {s : Session Platform} (agrees : s.Agrees) {next : Move}
    (revises : s.revises next = true) {owed : PendingSwitch} :
    (s.move next).controller.speaker.owed = some owed ↔
      s.EligibleReading next ∧
        owed = ⟨.speaker, s.settings.current.switchDelay, s.dueAfterDelay⟩ := by
  rcases revises_cases revises with
    ⟨event, reading, rfl, reads, answers⟩ | ⟨rfl, -, initial, -⟩ | ⟨rfl, gone, silent⟩
  · have eligible : s.EligibleReading (.apply event) ↔
        Eligible reading (s.outcome (.apply event)).1.snapshot s.settings.current := by
      constructor
      · rintro ⟨_, other, same, readsToo, eligible⟩
        cases same
        obtain rfl : reading = other := Option.some.inj (reads.symm.trans readsToo)
        rwa [move_controller] at eligible
      · intro eligible
        refine ⟨event, reading, rfl, reads, ?_⟩
        rwa [move_controller]
    rw [eligible, move_controller, answers.speaker]
    refine Option.bind_eq_some_iff.trans ?_
    constructor
    · rintro ⟨command, response, owes⟩
      cases command with
      | scheduleRouteSwitch target delay =>
        obtain ⟨eligible, rfl, rfl⟩ := SpeakerSwitch.response?_eq_schedule_iff.mp response
        exact ⟨eligible, (Option.some.inj owes).symm⟩
      | _ => cases owes
    · rintro ⟨eligible, rfl⟩
      exact ⟨_, SpeakerSwitch.response?_eq_schedule_iff.mpr ⟨eligible, rfl, rfl⟩, rfl⟩
  · rw [move_controller, initial]
    exact iff_of_false nofun fun both => not_eligibleReading_teardown s both.1
  · rw [move_controller, silent, agrees.ended gone]
    exact iff_of_false nofun fun both => not_eligibleReading_teardown s both.1

/-- The samples that come in a run, classified, in order. -/
def samples (moves : List Move) : List Proximity :=
  moves.filterMap fun
    | .apply event => event.sample?
    | _ => none

theorem run_proximity {s : Session Platform} (alive : s.controller.tornDown = false)
    {moves : List Move} (lasts : .teardown ∉ moves) :
    (s.run moves).controller.snapshot.proximity =
      (samples moves).getLast?.getD s.controller.snapshot.proximity := by
  induction moves using List.reverseRecOn with
  | nil => rfl
  | append_singleton before last ih =>
    rw [List.mem_append, not_or] at lasts
    have stays : (s.run before).controller.tornDown = false := run_alive alive lasts.1
    have kept := ih lasts.1
    unfold samples at kept ⊢
    rw [run_concat, move_controller, List.filterMap_append, List.getLast?_append]
    cases last with
    | apply event =>
      have handled : ((s.run before).outcome (.apply event)).1 =
          ((s.run before).controller.take _ _ event).1 :=
        congrArg Prod.fst (if_neg (Bool.eq_false_iff.mp stays))
      rw [handled, Controller.take_proximity, kept]
      cases event <;> rfl
    | teardown => exact absurd (List.mem_singleton_self _) lasts.2
    | _ => exact kept

/-! ## Calls -/

theorem speaker_not_mem_outcome (s : Session Platform) (next : Move) :
    .setRoute .speaker ∉ (s.outcome next).2 := by
  intro member
  have routed : .setRoute .speaker ∈ Command.routes (s.outcome next).2 :=
    List.mem_filter.mpr ⟨member, rfl⟩
  have cancels : .setRoute .speaker ∉ s.controller.speaker.cancelCommands := by
    rcases s.controller.speaker with ⟨_ | owed⟩ <;> simp [SpeakerSwitch.cancelCommands]
  cases revises : s.revises next with
  | false =>
    rw [(outcome_aside revises).routes] at routed
    cases routed
  | true =>
    rcases revises_cases revises with
      ⟨event, reading, -, -, answers⟩ | ⟨-, -, -, cancelled⟩ | ⟨-, -, silent⟩
    · rw [answers.routes] at routed
      rcases List.mem_append.mp routed with cancelled | answered
      · exact cancels cancelled
      · cases SpeakerSwitch.earpiece_of_response? (Option.mem_toList.mp answered)
    · rw [cancelled] at routed
      exact cancels routed
    · rw [silent] at member
      cases member

theorem speakerTimes_of_carried {s : Session Platform} {next : Move}
    (calls : (s.move next).sink.calls = (s.sink.dispatchAll s.clock (s.outcome next).2).calls) :
    (s.move next).sink.speakerTimes = s.sink.speakerTimes := by
  unfold Platform.speakerTimes
  rw [calls]
  exact Platform.dispatchAll_speakerTimes (s.speaker_not_mem_outcome next) s.clock

theorem speakerTimes_of_rung {s : Session Platform} {next : Move}
    (calls : (s.move next).sink.calls = s.sink.calls ++ [(s.clock, .route .speaker)]) :
    (s.move next).sink.speakerTimes = s.sink.speakerTimes ++ [s.clock] := by
  unfold Platform.speakerTimes
  rw [calls, List.filter_append, List.map_append]
  rfl

/-- A move that starts anew does not switch to the speaker. -/
theorem speakerTimes_of_revises {s : Session Platform} {next : Move}
    (revises : s.revises next = true) :
    (s.move next).sink.speakerTimes = s.sink.speakerTimes := by
  rcases s.move_cases next with ⟨-, calls⟩ | ⟨rfl, -⟩
  · exact speakerTimes_of_carried calls
  · cases revises

/-! ## From the call back to the reading -/

/-- What waits at the end of a run was asked for by an eligible reading, since when nothing has
started anew and nothing was switched to the speaker. -/
def AskedFor (s : Session Platform) (moves : List Move) (waiting : WaitingSwitch) : Prop :=
  ∃ earlier reading between, moves = earlier ++ reading :: between ∧
    (s.run earlier).EligibleReading reading ∧ ((s.run earlier).move reading).Quiet between ∧
    waiting = ⟨.speaker, (s.run earlier).dueAfterDelay⟩ ∧
    (s.run moves).sink.speakerTimes = (s.run earlier).sink.speakerTimes

theorem waits_for_reading (source : SettingsSource) (reports : Bool) (moves : List Move)
    {waiting : WaitingSwitch}
    (waits : ((start source (Platform.idle reports)).run moves).sink.device.timer.waiting =
      some waiting) : (start source (Platform.idle reports)).AskedFor moves waiting := by
  generalize begins : start source (Platform.idle reports) = first at waits ⊢
  induction moves using List.reverseRecOn generalizing waiting with
  | nil =>
    subst begins
    cases waits
  | append_singleton before last ih =>
    have agrees : (first.run before).Agrees := begins ▸ run_agrees source reports before
    rw [run_concat] at waits
    cases revises : (first.run before).revises last with
    | true =>
      rw [move_timer_of_revises agrees.known agrees.ended revises] at waits
      obtain ⟨owed, owes, rfl⟩ := Option.map_eq_some_iff.mp waits
      obtain ⟨eligible, rfl⟩ := (agrees.move_owed revises).mp owes
      refine ⟨before, last, [], rfl, eligible, trivial, rfl, ?_⟩
      rw [run_concat, speakerTimes_of_revises revises]
    | false =>
      rcases move_timer revises with ⟨stays, calls⟩ | ⟨-, -, -, -, rung, -⟩
      · rw [stays] at waits
        obtain ⟨earlier, reading, between, rfl, eligible, quiet, rfl, times⟩ := ih waits
        refine ⟨earlier, reading, between ++ [last], ?_, eligible, ?_, rfl, ?_⟩
        · rw [List.append_assoc, List.cons_append]
        · rw [run_append, run_cons] at revises
          exact (quiet_concat _ _ _).mpr ⟨quiet, revises⟩
        · rw [run_concat, speakerTimes_of_carried calls, times]
      · rw [rung] at waits
        cases waits

/-- In a run the switch that the move at a position asked for was carried out at a time: the move is
an eligible reading, and its delay was over when the timer got its turn, at that time, before
anything had started anew; and with that turn the one call was made. -/
def CarriedOut (s : Session Platform) (moves : List Move) (position time : Nat) : Prop :=
  ∃ earlier reading between after, earlier.length = position ∧
    moves = earlier ++ reading :: (between ++ .ring :: after) ∧
    (s.run earlier).EligibleReading reading ∧ ((s.run earlier).move reading).Quiet between ∧
    (s.run (earlier ++ reading :: between)).clock = time ∧ (s.run earlier).dueAfterDelay ≤ time ∧
    (s.run (earlier ++ reading :: (between ++ [.ring]))).sink.speakerTimes =
      (s.run earlier).sink.speakerTimes ++ [time]

theorem CarriedOut.append {s : Session Platform} {moves : List Move} {position time : Nat}
    (carried : s.CarriedOut moves position time) (more : List Move) :
    s.CarriedOut (moves ++ more) position time := by
  obtain ⟨earlier, reading, between, after, there, rfl, eligible, quiet, rung⟩ := carried
  refine ⟨earlier, reading, between, after ++ more, there, ?_, eligible, quiet, rung⟩
  simp only [List.append_assoc, List.cons_append]

/-- Each switch to the speaker carries out what a reading asked for, and as many came before that
reading as before the switch. -/
theorem speaker_call_caused (source : SettingsSource) (reports : Bool) (moves : List Move)
    {i time : Nat}
    (made : ((start source (Platform.idle reports)).run moves).sink.speakerTimes[i]? = some time) :
    ∃ position, (start source (Platform.idle reports)).CarriedOut moves position time ∧
      ((start source (Platform.idle reports)).run
        (moves.take position)).sink.speakerTimes.length = i := by
  generalize begins : start source (Platform.idle reports) = first at made ⊢
  induction moves using List.reverseRecOn with
  | nil =>
    subst begins
    cases made
  | append_singleton before last ih =>
    -- a switch that was there before the last move
    have older (there : (first.run before).sink.speakerTimes[i]? = some time) :
        ∃ position, first.CarriedOut (before ++ [last]) position time ∧
          (first.run ((before ++ [last]).take position)).sink.speakerTimes.length = i := by
      obtain ⟨position, carried, count⟩ := ih there
      refine ⟨position, carried.append [last], ?_⟩
      obtain ⟨earlier, reading, between, after, rfl, rfl, -⟩ := carried
      rw [List.append_assoc, List.take_left]
      rwa [List.take_left] at count
    rw [run_concat] at made
    rcases (first.run before).move_cases last with ⟨-, calls⟩ | ⟨rfl, waiting, waits, due, -, calls⟩
    · rw [speakerTimes_of_carried calls] at made
      exact older made
    · subst begins
      obtain ⟨earlier, reading, between, rfl, eligible, quiet, rfl, times⟩ :=
        waits_for_reading source reports before waits
      rw [speakerTimes_of_rung calls] at made
      rw [List.getElem?_append] at made
      split at made
      · exact older made
      · next beyond =>
        rw [List.getElem?_singleton] at made
        obtain ⟨last, here⟩ := Option.ite_none_right_eq_some.mp made
        have now := Option.some.inj here
        refine ⟨earlier.length, ⟨earlier, reading, between, [], rfl, ?_, eligible, quiet, now, ?_,
          ?_⟩, ?_⟩
        · rw [List.append_assoc, List.cons_append]
        · rw [← now]
          exact due
        · rw [← List.cons_append, ← List.append_assoc, run_concat, speakerTimes_of_rung calls,
            times, now]
        · rw [List.append_assoc, List.take_left, ← times]
          omega

/-! ## From the reading to the call -/

/-- While nothing starts anew and nothing waits, nothing is switched to the speaker. -/
theorem run_speakerTimes_of_idle {s : Session Platform} (idle : s.sink.device.timer = .idle)
    {moves : List Move} (quiet : s.Quiet moves) :
    (s.run moves).sink.speakerTimes = s.sink.speakerTimes := by
  induction moves generalizing s with
  | nil => rfl
  | cons next rest ih =>
    rcases move_timer quiet.1 with ⟨stays, calls⟩ | ⟨-, waiting, waits, -⟩
    · rw [run_cons, ih (stays.trans idle) quiet.2, speakerTimes_of_carried calls]
    · rw [idle] at waits
      cases waits

/-- While nothing starts anew, a switch to the speaker that waits is carried out once, when the
timer first has its turn after the deadline. -/
theorem rings_once {s : Session Platform} {deadline : Nat}
    (waits : s.sink.device.timer.waiting = some ⟨.speaker, deadline⟩) {before after : List Move}
    (quiet : s.Quiet (before ++ .ring :: after)) (due : deadline ≤ (s.run before).clock) :
    ∃ sooner later, before ++ .ring :: after = sooner ++ .ring :: later ∧
      deadline ≤ (s.run sooner).clock ∧ (s.run sooner).clock ≤ (s.run before).clock ∧
      (s.run (sooner ++ [.ring])).sink.speakerTimes =
        s.sink.speakerTimes ++ [(s.run sooner).clock] ∧
      (s.run (before ++ .ring :: after)).sink.speakerTimes =
        s.sink.speakerTimes ++ [(s.run sooner).clock] := by
  induction before generalizing s with
  | nil =>
    obtain ⟨device, calls⟩ := ring_of_due waits due
    have idle : (s.move .ring).sink.device.timer = .idle := by rw [device]
    refine ⟨[], after, rfl, due, Nat.le_refl _, speakerTimes_of_rung calls, ?_⟩
    rw [List.nil_append, run_cons, run_speakerTimes_of_idle idle quiet.2,
      speakerTimes_of_rung calls]
    rfl
  | cons next rest ih =>
    rcases move_timer quiet.1 with ⟨stays, calls⟩ | ⟨rfl, waiting, same, early, idle, calls⟩
    · obtain ⟨sooner, later, split, late, soon, rung, times⟩ := ih (stays ▸ waits) quiet.2 due
      refine ⟨next :: sooner, later, congrArg (next :: ·) split, late, soon, ?_, ?_⟩
      · rw [List.cons_append, run_cons, rung, speakerTimes_of_carried calls, run_cons]
      · rw [List.cons_append, run_cons, times, speakerTimes_of_carried calls, run_cons]
    · obtain rfl : ⟨.speaker, deadline⟩ = waiting := Option.some.inj (waits.symm.trans same)
      refine ⟨[], rest ++ .ring :: after, rfl, early, s.clock_le_run _,
        speakerTimes_of_rung calls, ?_⟩
      have since : (s.move .ring).Quiet (rest ++ .ring :: after) := quiet.2
      rw [List.cons_append, run_cons, run_speakerTimes_of_idle idle since,
        speakerTimes_of_rung calls]
      rfl

/-- An eligible reading after which nothing starts anew leads to one switch to the speaker, once the
timer has had its turn after the delay. -/
theorem speaker_call_comes (source : SettingsSource) (reports : Bool)
    {earlier before after : List Move} {reading : Move}
    (eligible : ((start source (Platform.idle reports)).run earlier).EligibleReading reading)
    (quiet : (((start source (Platform.idle reports)).run earlier).move reading).Quiet
      (before ++ .ring :: after))
    (due : ((start source (Platform.idle reports)).run earlier).dueAfterDelay ≤
      ((start source (Platform.idle reports)).run (earlier ++ reading :: before)).clock) :
    let first := start source (Platform.idle reports)
    let moves := earlier ++ reading :: (before ++ .ring :: after)
    ∃ time, first.CarriedOut moves earlier.length time ∧
      time ≤ (first.run (earlier ++ reading :: before)).clock ∧
      (first.run moves).sink.speakerTimes = (first.run earlier).sink.speakerTimes ++ [time] := by
  intro first moves
  have agrees : (first.run earlier).Agrees := run_agrees source reports earlier
  have waits : ((first.run earlier).move reading).sink.device.timer.waiting =
      some ⟨.speaker, (first.run earlier).dueAfterDelay⟩ := by
    rw [move_timer_of_revises agrees.known agrees.ended eligible.revises,
      (agrees.move_owed eligible.revises).mpr ⟨eligible, rfl⟩]
    rfl
  rw [run_append, run_cons] at due
  obtain ⟨sooner, later, split, late, soon, rung, times⟩ := rings_once waits quiet due
  refine ⟨_, ⟨earlier, reading, sooner, later, rfl, ?_, eligible, ?_, ?_, late, ?_⟩, ?_, ?_⟩
  · change earlier ++ reading :: (before ++ .ring :: after) = _
    rw [split]
  · rw [split] at quiet
    exact ((quiet_append _ _ _).mp quiet).1
  · rw [run_append, run_cons]
  · rw [run_append, run_cons, rung, speakerTimes_of_revises eligible.revises]
  · rw [run_append, run_cons]
    exact soon
  · rw [run_append, run_cons, times, speakerTimes_of_revises eligible.revises]

-- a turn of the timer that comes too early, and one that comes late
example :
    ((start ⟨⟨true, false, 3000⟩, none⟩ (Platform.idle true)).run
      [.apply (.callPhaseChanged .activeOffHook), .pass 10,
        .apply (.proximityRawSample (.ofBits 0) (.ofBits 0x40A00000)), .pass 2999, .ring, .pass 5,
        .ring, .collect]).sink.speakerTimes = [3014] := by
  decide

/-- **Every switch to the speaker has its cause.** In every run of a session on a platform:

* each call that switches to the speaker carries out what a reading of its own asked for: an
  eligible one, at least its delay earlier, with no reading and no end of the call screen between;
* an eligible reading, if no reading and no end of the call screen follows before the timer has had
  a turn after its delay, leads to one such call, which carries it out;
* the reading that counts once more when a dialled call connects is the last sample, and that
  nothing is near if there was none. -/
theorem speaker_calls_have_causes (source : SettingsSource) (reports : Bool) (moves : List Move) :
    let first := start source (Platform.idle reports)
    let times := (first.run moves).sink.speakerTimes
    (∃ cause : Nat → Nat,
        (∀ i time, times[i]? = some time → first.CarriedOut moves (cause i) time) ∧
          ∀ i j, i < times.length → j < times.length → cause i = cause j → i = j) ∧
      (∀ earlier reading before after,
        moves = earlier ++ reading :: (before ++ .ring :: after) →
          (first.run earlier).EligibleReading reading →
          ((first.run earlier).move reading).Quiet (before ++ .ring :: after) →
          (first.run earlier).dueAfterDelay ≤ (first.run (earlier ++ reading :: before)).clock →
            ∃ time, first.CarriedOut moves earlier.length time ∧
              time ≤ (first.run (earlier ++ reading :: before)).clock ∧
              times = (first.run earlier).sink.speakerTimes ++ [time]) ∧
      (.teardown ∉ moves →
        (first.run moves).controller.snapshot.proximity = (samples moves).getLast?.getD .far) := by
  intro first times
  refine ⟨?_, ?_, run_proximity rfl⟩
  · have caused : ∀ i, ∃ position, ∀ time, times[i]? = some time →
        first.CarriedOut moves position time ∧
          (first.run (moves.take position)).sink.speakerTimes.length = i := by
      intro i
      cases made : times[i]? with
      | none => exact ⟨0, nofun⟩
      | some time =>
        obtain ⟨position, carried, count⟩ := speaker_call_caused source reports moves made
        refine ⟨position, ?_⟩
        intro _ same
        cases same
        exact ⟨carried, count⟩
    choose cause causes using caused
    refine ⟨cause, fun i time made => (causes i time made).1, ?_⟩
    intro i j inside insideToo same
    have count := (causes i _ (List.getElem?_eq_getElem inside)).2
    have countToo := (causes j _ (List.getElem?_eq_getElem insideToo)).2
    rw [← count, same, countToo]
  · rintro earlier reading before after rfl eligible quiet due
    exact speaker_call_comes source reports eligible quiet due

end Session

end InCallProximity
