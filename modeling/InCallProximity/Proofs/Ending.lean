import InCallProximity.Proofs.Controller.Standing
import InCallProximity.Proofs.Session.Bookkeeping

/-!
# The end of the call screen

When the call screen ends, a controller takes back what its commands so far leave standing, and
nothing else (`teardown_eq_undo`): a controller remembers exactly that (`Outcome.Told`). From then
on it is as good as gone (`Ended`). On a platform the timer waits for nothing any more, so no call
is made (`Session.run_of_tornDown`).
-/

namespace InCallProximity

/-- The last command about a capability switched it on. -/
def Command.LeavesOn (κ : Capability) (commands : List Command) : Prop :=
  (κ.switches commands).getLast? = some true

instance (κ : Capability) (commands : List Command) : Decidable (Command.LeavesOn κ commands) :=
  inferInstanceAs (Decidable (_ = _))

/-- What takes back all that commands leave standing: first the delayed switch, then the sensors,
then the trigger. -/
def Command.undo (commands : List Command) : List Command :=
  (if Outstanding commands then [.cancelScheduledRouteSwitch] else []) ++
    (if LeavesOn .orientation commands then [.stopOrientationSensing] else []) ++
    (if LeavesOn .proximity commands then [.stopProximitySensing] else []) ++
    (if LeavesOn .blanking commands then [.releaseBlankTrigger true] else [])

namespace Controller

/-! ## The controller -/

theorem teardown_commands {c : Controller} (alive : c.tornDown = false) :
    c.teardown.2 = c.speaker.cancelCommands ++
      (if Capability.orientation.asked c then [.stopOrientationSensing] else []) ++
      (if Capability.proximity.asked c then [.stopProximitySensing] else []) ++
      (if Capability.blanking.asked c then [.releaseBlankTrigger true] else []) := by
  unfold teardown
  rw [if_neg (Bool.eq_false_iff.mp alive)]
  rcases c with ⟨snapshot, ⟨armed⟩, speaker, ⟨callActive, orientation⟩, tornDown⟩
  rw [List.append_assoc speaker.cancelCommands]
  cases armed <;> cases callActive <;> cases orientation <;> rfl

/-- A controller takes back what the commands so far leave standing. -/
theorem Outcome.Told.teardown_eq_undo {outcome : Outcome} (told : outcome.Told)
    (alive : outcome.1.tornDown = false) : outcome.1.teardown.2 = Command.undo outcome.2 := by
  have on : ∀ κ : Capability, Command.LeavesOn κ outcome.2 ↔ κ.asked outcome.1 = true := by
    intro κ
    unfold Command.LeavesOn
    rw [getLast?_eq_some_true_iff, told.asked]
  rw [teardown_commands alive, SpeakerSwitch.cancelCommands_eq_ite told.owed]
  unfold Command.undo
  simp only [on]

/-- The call screen has ended: the controller asks for nothing. -/
structure Ended (c : Controller) : Prop where
  tornDown : c.tornDown = true
  off : ∀ κ : Capability, κ.asked c = false
  owes : c.speaker.owed = none

theorem teardown_ended {c : Controller} (alive : c.tornDown = false) : c.teardown.1.Ended := by
  unfold teardown
  rw [if_neg (Bool.eq_false_iff.mp alive)]
  refine ⟨rfl, ?_, rfl⟩
  intro κ
  cases κ <;> rfl

theorem teardown_snapshot (c : Controller) : c.teardown.1.snapshot = c.snapshot := by
  unfold teardown
  split <;> rfl

theorem Ended.pending? {c : Controller} (ended : c.Ended) (now : Nat) : c.pending? now = none := by
  unfold Controller.pending? SpeakerSwitch.pending?
  rw [ended.owes]
  rfl

/-- What remembers and asks for nothing leaves nothing standing. -/
theorem Outcome.Told.nothing_stands {outcome : Outcome} (told : outcome.Told)
    (ended : outcome.1.Ended) :
    ¬ Command.Outstanding outcome.2 ∧ ∀ κ : Capability, ¬ Command.LeavesOn κ outcome.2 := by
  constructor
  · rw [← told.owed, ended.owes]
    exact Bool.false_ne_true
  · intro κ
    unfold Command.LeavesOn
    rw [getLast?_eq_some_true_iff, told.asked, ended.off]
    exact Bool.false_ne_true

end Controller

namespace Session

/-! ## The session -/

/-- Once the call screen has ended and the timer waits for nothing, no move makes a call. -/
theorem move_of_tornDown {s : Session Platform} (gone : s.controller.tornDown = true)
    (idle : s.sink.device.timer = .idle) (next : Move) :
    (s.move next).controller = s.controller ∧ (s.move next).sink.device.timer = .idle ∧
      (s.move next).sink.calls = s.sink.calls := by
  have silent := outcome_of_tornDown gone next
  refine ⟨by rw [move_controller, silent], ?_⟩
  rcases s.move_cases next with ⟨device, calls⟩ | ⟨-, waiting, waits, -⟩
  · rw [device, calls, silent]
    exact ⟨idle, rfl⟩
  · rw [idle] at waits
    cases waits

theorem run_of_tornDown {s : Session Platform} (gone : s.controller.tornDown = true)
    (idle : s.sink.device.timer = .idle) (moves : List Move) :
    (s.run moves).controller = s.controller ∧ (s.run moves).sink.device.timer = .idle ∧
      (s.run moves).sink.calls = s.sink.calls := by
  induction moves generalizing s with
  | nil => exact ⟨rfl, idle, rfl⟩
  | cons next rest ih =>
    obtain ⟨controller, idleToo, calls⟩ := s.move_of_tornDown gone idle next
    obtain ⟨controllerToo, still, callsToo⟩ := ih (controller ▸ gone) idleToo
    exact ⟨controllerToo.trans controller, still, callsToo.trans calls⟩

end Session

/-- **The end of the call screen undoes what stands, and is the end.** In every run of a controller
whose call screen has not ended:

* the end of the call screen takes back what the commands so far leave standing, and nothing else;
* so all commands together leave nothing standing, and each capability was switched on and off in
  turn;
* whatever comes after it, nothing is asked for, and the controller stays as it is: with the
  snapshot that it had, nothing asked of a capability, and no switch to come.

In every run of a session on a platform, no call is made after the call screen has ended, neither
at once nor by the timer. -/
theorem teardown_undoes_what_stands (arrivals : List Arrival) :
    let (c, commands) := Controller.initial.takeAll arrivals
    let (ended, undone) := c.teardown
    undone = Command.undo commands ∧
      (¬ Command.Outstanding (commands ++ undone) ∧ ∀ κ : Capability,
        Alternates (κ.switches (commands ++ undone)) ∧
          ¬ Command.LeavesOn κ (commands ++ undone)) ∧
      ((∀ inputs, ended.run inputs = (ended, [])) ∧ ended.snapshot = c.snapshot ∧
        (∀ κ : Capability, κ.asked ended = false) ∧ ∀ now, ended.pending? now = none) ∧
      ∀ source reports before after,
        let s := (Session.start source (Platform.idle reports)).run (before ++ [.teardown])
        (s.run after).sink.calls = s.sink.calls ∧ (s.run after).controller = s.controller := by
  have told := Controller.takeAll_told arrivals
  have alive := (Controller.initial_live.takeAll arrivals).alive
  generalize Controller.initial.takeAll arrivals = outcome at told alive
  have toldToo := told.teardown alive
  have ended := Controller.teardown_ended alive
  have stands := toldToo.nothing_stands ended
  refine ⟨told.teardown_eq_undo alive, ⟨stands.1, fun κ => ⟨toldToo.alternates κ, stands.2 κ⟩⟩,
    ⟨Controller.run_of_tornDown ended.tornDown, outcome.1.teardown_snapshot, ended.off,
      ended.pending?⟩, ?_⟩
  intro source reports before after s
  have agrees : s.Agrees := Session.run_agrees source reports _
  have gone : s.controller.tornDown = true := by
    change (Session.run _ (before ++ [.teardown])).controller.tornDown = true
    rw [Session.run_concat, Session.move_controller, Session.outcome_tornDown]
    exact Bool.or_true _
  obtain ⟨controller, -, calls⟩ := s.run_of_tornDown gone (agrees.known (agrees.ended gone)) after
  exact ⟨calls, controller⟩

end InCallProximity
