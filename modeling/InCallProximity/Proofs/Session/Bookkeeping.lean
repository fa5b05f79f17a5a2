import InCallProximity.Proofs.Session.Moves

/-!
# The two books about a delayed switch

A delayed switch is written down twice: by the switch to the speaker, which remembers what it asked
for (`SpeakerSwitch.owed`), and by the timer, which waits (`RouteTimer.waiting`). The timer strikes
it out when it rings; the switch to the speaker only when a reading or the end of the call screen
makes it start anew (`revises`).

The books agree all the same (`Agrees`): the timer waits for nothing that was not asked for, and
what was asked for is waited for until its time has come. Beyond that time the only difference is a
switch that has rung (`Rung`), and taking that one back does nothing.
-/

namespace InCallProximity

/-- What the timer has to know of a delayed switch. -/
def PendingSwitch.waiting (owed : PendingSwitch) : WaitingSwitch := ⟨owed.target, owed.deadline⟩

namespace SpeakerSwitch

variable {speaker : SpeakerSwitch} {timer : RouteTimer}

theorem follow_idle (now : Nat) (command : Command) :
    RouteTimer.idle.follow now command = ⟨(owedBy now command).map PendingSwitch.waiting⟩ := by
  cases command <;> rfl

theorem cancelCommands_timer (known : speaker.owed = none → timer = .idle) (now : Nat) :
    speaker.cancelCommands.foldl (RouteTimer.follow now) timer = .idle := by
  rcases speaker with ⟨_ | owed⟩
  · exact known rfl
  · rfl

/-- A reading leaves the timer with what is now asked for, whatever it waited for. -/
theorem read_timer (known : speaker.owed = none → timer = .idle) (reading : Proximity)
    (s : Snapshot) (settings : Settings) (now : Nat) :
    (speaker.read reading s settings now).2.foldl (RouteTimer.follow now) timer =
      ⟨(speaker.read reading s settings now).1.owed.map PendingSwitch.waiting⟩ := by
  unfold read
  dsimp only
  rw [List.foldl_append, cancelCommands_timer known]
  cases response? reading s settings with
  | none => rfl
  | some command => exact follow_idle now command

/-- Nothing is asked for before the last switch is taken back. -/
theorem cancelCommands_first {before after : List Command}
    (commands : speaker.cancelCommands = before ++ .cancelScheduledRouteSwitch :: after) :
    before = [] := by
  have few : speaker.cancelCommands.length ≤ 1 := by
    rcases speaker with ⟨_ | owed⟩
    · exact Nat.zero_le 1
    · exact Nat.le_refl 1
  rw [commands, List.length_append, List.length_cons] at few
  exact List.length_eq_zero_iff.mp (by omega)

theorem read_cancel_first {reading : Proximity} {s : Snapshot} {settings : Settings} {now : Nat}
    {before after : List Command}
    (commands : (speaker.read reading s settings now).2 =
      before ++ .cancelScheduledRouteSwitch :: after) : before = [] := by
  have answer : response? reading s settings ≠ some .cancelScheduledRouteSwitch := by
    rw [response?_eq_ite]
    split
    · cases reading with
      | near =>
        dsimp only
        split <;> nofun
      | far => nofun
    · nofun
  rcases List.append_eq_append_iff.mp commands with
    ⟨more, rfl, answered⟩ | ⟨more, cancels, answered⟩
  · have member : .cancelScheduledRouteSwitch ∈ (response? reading s settings).toList := by
      rw [answered]
      exact List.mem_append_right _ (List.mem_cons_self ..)
    exact absurd (Option.mem_toList.mp member) answer
  · rcases more with _ | ⟨head, more⟩
    · have member : .cancelScheduledRouteSwitch ∈ (response? reading s settings).toList := by
        rw [← List.nil_append (Option.toList _), ← answered]
        exact List.mem_cons_self ..
      exact absurd (Option.mem_toList.mp member) answer
    · rw [List.cons_append] at answered
      obtain ⟨rfl, -⟩ := List.cons.inj answered
      exact cancelCommands_first cancels

end SpeakerSwitch

/-- To a timer that waits for nothing, taking a switch back does nothing. -/
theorem Platform.dispatch_cancel_of_idle {p : Platform} (idle : p.device.timer = .idle)
    (now : Nat) : p.dispatch now .cancelScheduledRouteSwitch = p := by
  rcases p with ⟨⟨held, timer⟩, calls, reports, unreported⟩
  obtain rfl : timer = .idle := idle
  change Platform.mk ⟨held, .idle⟩ (calls ++ []) reports
    (unreported ++ if reports then [] else []) = _
  rw [ite_self, List.append_nil, List.append_nil]

namespace Session

/-! ## Starting anew -/

/-- The switch to the speaker starts anew: a reading comes, or the call screen ends. -/
def revises (s : Session Platform) : Move → Bool
  | .apply event => (s.controller.reading? event).isSome
  | .teardown => true
  | .share _ | .pass _ | .ring | .collect => false

/-- In a run no reading comes, and the call screen does not end. -/
def Quiet (s : Session Platform) : List Move → Prop
  | [] => True
  | next :: rest => s.revises next = false ∧ (s.move next).Quiet rest

theorem quiet_append (s : Session Platform) (before after : List Move) :
    s.Quiet (before ++ after) ↔ s.Quiet before ∧ (s.run before).Quiet after := by
  induction before generalizing s with
  | nil => exact ⟨fun quiet => ⟨trivial, quiet⟩, And.right⟩
  | cons next rest ih => exact (and_congr_right fun _ => ih (s.move next)).trans and_assoc.symm

theorem quiet_concat (s : Session Platform) (before : List Move) (last : Move) :
    s.Quiet (before ++ [last]) ↔ s.Quiet before ∧ (s.run before).revises last = false := by
  rw [quiet_append]
  exact and_congr_right fun _ => and_iff_left trivial

theorem outcome_aside {s : Session Platform} {next : Move} (quiet : s.revises next = false) :
    (s.outcome next).Aside s.controller := by
  cases next with
  | apply event =>
    have reads : s.controller.reading? event = none :=
      Option.not_isSome_iff_eq_none.mp (Bool.eq_false_iff.mp quiet)
    exact Controller.handle_of_no_reading reads _ _
  | teardown => cases quiet
  | _ => exact ⟨rfl, rfl⟩

/-- What a move that starts anew does about the audio route: it answers a reading, or takes back the
last switch; after the end of the call screen it does nothing. -/
theorem revises_cases {s : Session Platform} {next : Move} (revises : s.revises next = true) :
    (∃ event reading, next = .apply event ∧ s.controller.reading? event = some reading ∧
        (s.outcome next).Answers s.controller reading s.settings.current s.clock) ∨
      next = .teardown ∧ s.controller.tornDown = false ∧
        (s.outcome next).1.speaker = .initial ∧
        Command.routes (s.outcome next).2 = s.controller.speaker.cancelCommands ∨
      next = .teardown ∧ s.controller.tornDown = true ∧ s.outcome next = (s.controller, []) := by
  cases next with
  | apply event =>
    obtain ⟨reading, reads⟩ := Option.isSome_iff_exists.mp revises
    exact Or.inl ⟨event, reading, rfl, reads, Controller.handle_of_reading reads _ _⟩
  | teardown =>
    cases alive : s.controller.tornDown with
    | false => exact Or.inr (Or.inl ⟨rfl, rfl, Controller.teardown_routes alive⟩)
    | true => exact Or.inr (Or.inr ⟨rfl, rfl, outcome_of_tornDown alive .teardown⟩)
  | _ => cases revises

/-- A move that does not start anew leaves the timer alone and carries out its commands, unless the
timer rings. -/
theorem move_timer {s : Session Platform} {next : Move} (quiet : s.revises next = false) :
    ((s.move next).sink.device.timer = s.sink.device.timer ∧
        (s.move next).sink.calls = (s.sink.dispatchAll s.clock (s.outcome next).2).calls) ∨
      next = .ring ∧ ∃ waiting, s.sink.device.timer.waiting = some waiting ∧
        waiting.deadline ≤ s.clock ∧ (s.move next).sink.device.timer = .idle ∧
        (s.move next).sink.calls = s.sink.calls ++ [(s.clock, .route waiting.target)] := by
  rcases s.move_cases next with ⟨carried, calls⟩ | ⟨rings, waiting, waits, due, rung, calls⟩
  · refine Or.inl ⟨?_, calls⟩
    rw [carried, Platform.dispatchAll_timer, (outcome_aside quiet).routes]
    rfl
  · refine Or.inr ⟨rings, waiting, waits, due, ?_, calls⟩
    rw [rung]

/-- A move that starts anew leaves the timer with what is now asked for. -/
theorem move_timer_of_revises {s : Session Platform} {next : Move}
    (known : s.controller.speaker.owed = none → s.sink.device.timer = .idle)
    (gone : s.controller.tornDown = true → s.controller.speaker.owed = none)
    (revises : s.revises next = true) :
    (s.move next).sink.device.timer =
      ⟨(s.move next).controller.speaker.owed.map PendingSwitch.waiting⟩ := by
  rcases s.move_cases next with ⟨carried, -⟩ | ⟨rfl, -⟩
  · rw [carried, Platform.dispatchAll_timer, move_controller]
    rcases revises_cases revises with
      ⟨event, reading, -, -, answers⟩ | ⟨-, -, initial, cancels⟩ | ⟨-, ended, silent⟩
    · rw [answers.routes, answers.speaker]
      exact SpeakerSwitch.read_timer known _ _ _ _
    · rw [cancels, initial]
      exact SpeakerSwitch.cancelCommands_timer known _
    · rw [silent, gone ended]
      exact known (gone ended)
  · cases revises

/-! ## The books agree -/

/-- The books agree: the timer waits for nothing, or for what was asked for, and for that until its
time has come. Nothing is asked for once the call screen is gone. -/
structure Agrees (s : Session Platform) : Prop where
  asked : s.sink.device.timer = .idle ∨
    s.sink.device.timer = ⟨s.controller.speaker.owed.map PendingSwitch.waiting⟩
  kept : ∀ owed, s.controller.speaker.owed = some owed → s.clock < owed.deadline →
    s.sink.device.timer.waiting = some owed.waiting
  ended : s.controller.tornDown = true → s.controller.speaker.owed = none

theorem start_agrees (source : SettingsSource) (reports : Bool) :
    (start source (Platform.idle reports)).Agrees where
  asked := Or.inl rfl
  kept := nofun
  ended := nofun

theorem Agrees.known {s : Session Platform} (agrees : s.Agrees)
    (nothing : s.controller.speaker.owed = none) : s.sink.device.timer = .idle := by
  rcases agrees.asked with idle | asked
  · exact idle
  · rw [asked, nothing]
    rfl

theorem Agrees.owed_of_waiting {s : Session Platform} (agrees : s.Agrees) {waiting : WaitingSwitch}
    (waits : s.sink.device.timer.waiting = some waiting) :
    ∃ owed, s.controller.speaker.owed = some owed ∧ owed.waiting = waiting := by
  rcases agrees.asked with idle | asked
  · rw [idle] at waits
    cases waits
  · rw [asked] at waits
    exact Option.map_eq_some_iff.mp waits

theorem clock_le_move (s : Session Platform) (next : Move) : s.clock ≤ (s.move next).clock := by
  cases next with
  | pass span => exact Nat.le_add_right _ _
  | _ => exact Nat.le_refl _

theorem clock_le_run (s : Session Platform) (moves : List Move) :
    s.clock ≤ (s.run moves).clock := by
  induction moves generalizing s with
  | nil => exact Nat.le_refl _
  | cons next rest ih =>
    calc s.clock ≤ (s.move next).clock := s.clock_le_move next
      _ ≤ ((s.move next).run rest).clock := ih _

/-- Once the call screen is gone, nothing is asked for. -/
theorem Agrees.move_ended {s : Session Platform} (agrees : s.Agrees) (next : Move)
    (gone : (s.move next).controller.tornDown = true) :
    (s.move next).controller.speaker.owed = none := by
  rw [move_controller] at gone ⊢
  cases alive : s.controller.tornDown with
  | true =>
    rw [outcome_of_tornDown alive]
    exact agrees.ended alive
  | false =>
    rw [outcome_tornDown, alive, Bool.false_or] at gone
    obtain rfl : next = .teardown := of_decide_eq_true gone
    exact congrArg SpeakerSwitch.owed (Controller.teardown_routes alive).1

theorem Agrees.move {s : Session Platform} (agrees : s.Agrees) (next : Move) :
    (s.move next).Agrees := by
  cases revises : s.revises next with
  | true =>
    have asked := move_timer_of_revises agrees.known agrees.ended revises
    refine ⟨Or.inr asked, ?_, agrees.move_ended next⟩
    intro owed owes _
    rw [asked, owes]
    rfl
  | false =>
    have same : (s.move next).controller.speaker = s.controller.speaker := by
      rw [move_controller, (outcome_aside revises).speaker]
    have later := s.clock_le_move next
    rcases move_timer revises with ⟨stays, -⟩ | ⟨-, waiting, waits, due, rung, -⟩
    · refine ⟨?_, ?_, agrees.move_ended next⟩
      · rw [stays, same]
        exact agrees.asked
      · intro owed owes early
        rw [same] at owes
        rw [stays]
        exact agrees.kept owed owes (by omega)
    · refine ⟨Or.inl rung, ?_, agrees.move_ended next⟩
      -- the switch that rings is the one that is owed, so its time has come
      intro owed owes early
      obtain ⟨other, owesOther, rfl⟩ := agrees.owed_of_waiting waits
      obtain rfl : other = owed := by
        rw [same, owesOther] at owes
        exact Option.some.inj owes
      have due : other.deadline ≤ s.clock := due
      omega

theorem run_agrees (source : SettingsSource) (reports : Bool) (moves : List Move) :
    ((start source (Platform.idle reports)).run moves).Agrees :=
  run_induction (start_agrees source reports) (fun _ next agrees => agrees.move next) moves

/-! ## A switch that has rung -/

/-- A delayed switch has rung in a run: the timer got its turn when the switch was due, and nothing
has started anew since. -/
def Rung (s : Session Platform) (moves : List Move) (waiting : WaitingSwitch) : Prop :=
  ∃ before between, moves = before ++ .ring :: between ∧
    (s.run before).sink.device.timer.waiting = some waiting ∧
    waiting.deadline ≤ (s.run before).clock ∧ ((s.run before).move .ring).Quiet between

theorem Rung.concat {s : Session Platform} {moves : List Move} {waiting : WaitingSwitch}
    (rung : s.Rung moves waiting) {next : Move} (quiet : (s.run moves).revises next = false) :
    s.Rung (moves ++ [next]) waiting := by
  obtain ⟨before, between, rfl, waits, due, since⟩ := rung
  refine ⟨before, between ++ [next], by rw [List.append_assoc, List.cons_append], waits, due, ?_⟩
  rw [run_append, run_cons] at quiet
  exact (quiet_concat _ _ _).mpr ⟨since, quiet⟩

/-- A switch that is owed is waited for, or it has rung. -/
theorem waits_or_rung (source : SettingsSource) (reports : Bool) (moves : List Move)
    {owed : PendingSwitch}
    (owes : ((start source (Platform.idle reports)).run moves).controller.speaker.owed =
      some owed) :
    ((start source (Platform.idle reports)).run moves).sink.device.timer.waiting =
        some owed.waiting ∨
      (start source (Platform.idle reports)).Rung moves owed.waiting := by
  induction moves using List.reverseRecOn with
  | nil => cases owes
  | append_singleton before last ih =>
    have agrees := run_agrees source reports before
    rw [run_concat] at owes ⊢
    cases revises : ((start source (Platform.idle reports)).run before).revises last with
    | true =>
      refine Or.inl ?_
      rw [move_timer_of_revises agrees.known agrees.ended revises, owes]
      rfl
    | false =>
      rw [move_controller, (outcome_aside revises).speaker] at owes
      rcases ih owes with waits | rung
      · rcases move_timer revises with ⟨stays, -⟩ | ⟨rfl, waiting, waitsToo, due, -⟩
        · refine Or.inl ?_
          rw [stays]
          exact waits
        · rw [waits] at waitsToo
          cases waitsToo
          exact Or.inr ⟨before, [], rfl, waits, due, trivial⟩
      · exact Or.inr (rung.concat revises)

theorem run_speaker {s : Session Platform} {moves : List Move} (quiet : s.Quiet moves) :
    (s.run moves).controller.speaker = s.controller.speaker := by
  induction moves generalizing s with
  | nil => rfl
  | cons next rest ih => rw [run_cons, ih quiet.2, move_controller, (outcome_aside quiet.1).speaker]

theorem run_idle {s : Session Platform} (idle : s.sink.device.timer = .idle) {moves : List Move}
    (quiet : s.Quiet moves) : (s.run moves).sink.device.timer = .idle := by
  induction moves generalizing s with
  | nil => exact idle
  | cons next rest ih =>
    refine ih ?_ quiet.2
    rcases move_timer quiet.1 with ⟨stays, -⟩ | ⟨-, -, -, -, rung, -⟩
    · exact stays.trans idle
    · exact rung

/-- After a switch has rung, the timer waits for nothing. -/
theorem Rung.idle {s : Session Platform} {moves : List Move} {waiting : WaitingSwitch}
    (rung : s.Rung moves waiting) : (s.run moves).sink.device.timer = .idle := by
  obtain ⟨before, between, rfl, waits, due, since⟩ := rung
  rw [run_append, run_cons]
  refine run_idle ?_ since
  rw [(ring_of_due waits due).1]

/-- A switch that has rung is still owed. -/
theorem Rung.owed {source : SettingsSource} {reports : Bool} {moves : List Move}
    {waiting : WaitingSwitch} (rung : (start source (Platform.idle reports)).Rung moves waiting) :
    ∃ owed, ((start source (Platform.idle reports)).run moves).controller.speaker.owed =
      some owed ∧ owed.waiting = waiting := by
  obtain ⟨before, between, rfl, waits, -, since⟩ := rung
  have silent : (((start source (Platform.idle reports)).run before).outcome .ring).Aside _ :=
    outcome_aside rfl
  rw [run_append, run_cons, run_speaker since, move_controller, silent.speaker]
  exact (run_agrees source reports before).owed_of_waiting waits

/-! ## Taking back -/

/-- Nothing about the audio route comes before the command that takes back the last switch. -/
theorem routes_before_cancel {s : Session Platform} {next : Move} {first rest : List Command}
    (commands : (s.outcome next).2 = first ++ .cancelScheduledRouteSwitch :: rest) :
    Command.routes first = [] := by
  have routes : Command.routes (s.outcome next).2 =
      Command.routes first ++ .cancelScheduledRouteSwitch :: Command.routes rest := by
    rw [commands, Command.routes_append]
    rfl
  have any : Command.routes (s.outcome next).2 ≠ [] := by
    rw [routes]
    exact List.append_ne_nil_of_right_ne_nil _ (List.cons_ne_nil _ _)
  cases revises : s.revises next with
  | false => exact absurd (outcome_aside revises).routes any
  | true =>
    rcases revises_cases revises with
      ⟨event, reading, -, -, answers⟩ | ⟨-, -, -, cancels⟩ | ⟨-, -, silent⟩
    · exact SpeakerSwitch.read_cancel_first (answers.routes.symm.trans routes)
    · exact SpeakerSwitch.cancelCommands_first (cancels.symm.trans routes)
    · rw [silent] at any
      exact absurd rfl any

/-- **The books never drift apart.** After every run of a session on a platform:

* a switch that the timer waits for is the one that is owed, with its target and its deadline;
* a switch that is still to come is one that the timer waits for;
* so whether a switch is still to come and whether the timer waits differ only when the timer waits
  for a switch whose time has come, and has not had its turn since;
* a switch that is owed and not waited for has rung, and one that has rung is still owed, and not
  waited for;
* and where a switch that has rung is taken back, the timer waits for nothing, and the platform
  stays as it is. -/
theorem books_agree (source : SettingsSource) (reports : Bool) (moves : List Move) :
    let first := start source (Platform.idle reports)
    let s := first.run moves
    let timer := s.sink.device.timer
    (∀ waiting, timer.waiting = some waiting →
        ∃ delay, s.controller.speaker.owed = some ⟨waiting.target, delay, waiting.deadline⟩) ∧
      (∀ owed, s.controller.pending? s.clock = some owed →
        timer.isPending = true ∧ timer.waiting = some ⟨owed.target, owed.deadline⟩) ∧
      (s.hasPendingSwitch ≠ timer.isPending →
        s.hasPendingSwitch = false ∧
          ∃ waiting, timer.waiting = some waiting ∧ waiting.deadline ≤ s.clock) ∧
      (∀ owed, s.controller.speaker.owed = some owed →
        timer.waiting = some ⟨owed.target, owed.deadline⟩ ∨
          first.Rung moves ⟨owed.target, owed.deadline⟩) ∧
      (∀ waiting, first.Rung moves waiting →
        timer.isPending = false ∧
          ∃ delay, s.controller.speaker.owed = some ⟨waiting.target, delay, waiting.deadline⟩) ∧
      ∀ waiting next before after, first.Rung moves waiting →
        (s.outcome next).2 = before ++ .cancelScheduledRouteSwitch :: after →
          let p := s.sink.dispatchAll s.clock before
          p.device.timer.isPending = false ∧
            p.dispatch s.clock .cancelScheduledRouteSwitch = p := by
  intro first s timer
  have agrees : s.Agrees := run_agrees source reports moves
  have pending : ∀ owed, s.controller.pending? s.clock = some owed →
      timer.waiting = some owed.waiting := by
    intro owed pending
    obtain ⟨owes, live⟩ := Option.filter_eq_some_iff.mp pending
    exact agrees.kept owed owes (of_decide_eq_true live)
  refine ⟨?_, ?_, ?_, ?_, ?_, ?_⟩
  · intro waiting waits
    obtain ⟨owed, owes, rfl⟩ := agrees.owed_of_waiting waits
    exact ⟨owed.delay, owes⟩
  · intro owed still
    have waits := pending owed still
    exact ⟨Option.isSome_of_eq_some waits, waits⟩
  · intro differ
    cases still : s.controller.pending? s.clock with
    | some owed =>
      have waits := pending owed still
      refine absurd ?_ differ
      exact (Option.isSome_of_eq_some still).trans (Option.isSome_of_eq_some waits).symm
    | none =>
      have expired : s.hasPendingSwitch = false := by
        unfold hasPendingSwitch
        rw [still]
        rfl
      rw [expired] at differ
      obtain ⟨waiting, waits⟩ := Option.isSome_iff_exists.mp (Bool.ne_false_iff.mp differ.symm)
      refine ⟨expired, waiting, waits, ?_⟩
      obtain ⟨owed, owes, rfl⟩ := agrees.owed_of_waiting waits
      refine Nat.le_of_not_lt fun early => ?_
      have live : s.controller.pending? s.clock = some owed :=
        Option.filter_eq_some_iff.mpr ⟨owes, decide_eq_true early⟩
      rw [still] at live
      cases live
  · intro owed owes
    exact waits_or_rung source reports moves owes
  · intro waiting rung
    have idle : timer = .idle := rung.idle
    obtain ⟨owed, owes, rfl⟩ := rung.owed
    exact ⟨congrArg RouteTimer.isPending idle, owed.delay, owes⟩
  · intro waiting next before after rung commands p
    have idle : p.device.timer = .idle := by
      change (s.sink.dispatchAll s.clock before).device.timer = _
      rw [Platform.dispatchAll_timer, routes_before_cancel commands]
      exact rung.idle
    refine ⟨by rw [idle]; rfl, ?_⟩
    exact Platform.dispatch_cancel_of_idle idle s.clock

end Session

end InCallProximity
