import InCallProximity.Proofs.Controller.History
import InCallProximity.Proofs.Controller.Standing

/-!
# The commands about the audio route

Which commands about the audio route an event leads to is read off the run so far, without the
controller: the reading that the event brings, if any, comes from the events (`History.reading?`); a
switch is taken back if the commands so far leave one outstanding; and the answer to the reading
comes from the events and the settings of that moment (`History.answer`).
-/

namespace InCallProximity

namespace History

/-- The reading that an event brings after a history: that of its sample, or that of the last sample
once more when a call that was dialled connects. -/
def reading? (history : List Event) (event : Event) : Option Proximity :=
  event.reading? (phase.after history) (proximity.after history)

/-- What a reading asks for after a history. Only the way to the speaker is closed to calls that the
user placed. -/
def answer (history : List Event) (settings : Settings) (reading : Proximity) : List Command :=
  if phase.after history = .activeOffHook ∧ settings.autoSpeaker = true ∧
      route.after history ≠ .bluetooth ∧ route.after history ≠ .wiredHeadset then
    match reading with
    | .far => [.setRoute .earpiece]
    | .near =>
      if route.after history = .earpiece ∧
          ¬ (settings.inCallOnly = true ∧ placedByUser.after history = true) then
        [.scheduleRouteSwitch .speaker settings.switchDelay]
      else []
  else []

theorem own_device_iff (route : AudioRoute) :
    route = .earpiece ∨ route = .speaker ↔ route ≠ .bluetooth ∧ route ≠ .wiredHeadset := by
  cases route <;> decide

/-- The switch to the speaker answers as the history says. -/
theorem response?_eq_answer (history : List Event) (settings : Settings) (reading : Proximity) :
    (SpeakerSwitch.response? reading (snapshot history) settings).toList =
      answer history settings reading := by
  rw [SpeakerSwitch.response?_eq_ite]
  unfold answer
  by_cases active : phase.after history = .activeOffHook ∧ settings.autoSpeaker = true ∧
      route.after history ≠ .bluetooth ∧ route.after history ≠ .wiredHeadset
  · have answered : (snapshot history).phase = .activeOffHook ∧ settings.autoSpeaker = true ∧
        ((snapshot history).route = .earpiece ∨ (snapshot history).route = .speaker) :=
      ⟨active.1, active.2.1, (own_device_iff _).mpr active.2.2⟩
    rw [if_pos active, if_pos answered]
    cases reading with
    | far => rfl
    | near =>
      dsimp only
      by_cases free : route.after history = .earpiece ∧
          ¬ (settings.inCallOnly = true ∧ placedByUser.after history = true)
      · have unblocked : ¬ ((snapshot history).route = .speaker ∨
            settings.inCallOnly = true ∧ (snapshot history).outgoingCall = true) := by
          rintro (onSpeaker | restricted)
          · cases free.1.symm.trans onSpeaker
          · exact free.2 restricted
        rw [if_pos free, if_neg unblocked]
        rfl
      · have blocked : (snapshot history).route = .speaker ∨
            settings.inCallOnly = true ∧ (snapshot history).outgoingCall = true := by
          rcases answered.2.2 with atEar | onSpeaker
          · exact Or.inr (not_not.mp fun unrestricted => free ⟨atEar, unrestricted⟩)
          · exact Or.inl onSpeaker
        rw [if_neg free, if_pos blocked]
        rfl
  · have unanswered : ¬ ((snapshot history).phase = .activeOffHook ∧ settings.autoSpeaker = true ∧
        ((snapshot history).route = .earpiece ∨ (snapshot history).route = .speaker)) :=
      fun same => active ⟨same.1, same.2.1, (own_device_iff _).mp same.2.2⟩
    rw [if_neg active, if_neg unanswered]
    rfl

end History

namespace Controller

variable (before : List Arrival)

theorem takeAll_eq_history :
    (initial.takeAll before).1.snapshot = History.snapshot (before.map Arrival.event) :=
  (takeAll_snapshot before).trans (History.snapshot_eq_foldl _).symm

/-- An event brings the reading that the history says. -/
theorem takeAll_reading? (event : Event) :
    (initial.takeAll before).1.reading? event =
      History.reading? (before.map Arrival.event) event := by
  have alive := (initial_live.takeAll before).alive
  have snapshot := takeAll_eq_history before
  unfold reading?
  rw [alive, if_neg Bool.false_ne_true, snapshot]
  rfl

/-- **The commands about the audio route.** In every run of a controller whose call screen has not
ended, the next event leads to these commands about the audio route, in this order: to none if it
brings no reading; otherwise to the one that takes a switch back, if one is outstanding, and then to
what the reading asks for under the settings of that moment. -/
theorem route_commands_of_history (next : Arrival) :
    let history := before.map Arrival.event
    let (c, commands) := initial.takeAll before
    Command.routes (c.handle next.event next.settings next.time).2 =
      match History.reading? history next.event with
      | none => []
      | some reading =>
        (if Command.Outstanding commands then [.cancelScheduledRouteSwitch] else []) ++
          History.answer (history ++ [next.event]) next.settings reading := by
  intro history
  have told := takeAll_told before
  have reads := takeAll_reading? before next.event
  have after := takeAll_eq_history (before ++ [next])
  rw [takeAll_concat, List.map_append] at after
  generalize initial.takeAll before = outcome at told reads after ⊢
  rcases outcome with ⟨c, commands⟩
  dsimp only at reads ⊢
  rw [← reads]
  cases read : c.reading? next.event with
  | none => exact (handle_of_no_reading read _ _).routes
  | some reading =>
    have answers := handle_of_reading read next.settings next.time
    have snapshot : (c.handle next.event next.settings next.time).1.snapshot =
        History.snapshot (history ++ [next.event]) := after
    rw [answers.routes, snapshot]
    dsimp only [SpeakerSwitch.read]
    rw [SpeakerSwitch.cancelCommands_eq_ite told.owed, History.response?_eq_answer]

end Controller

end InCallProximity
