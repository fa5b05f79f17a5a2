import InCallProximity.Host
import InCallProximity.Proofs.Controller.Standing
import InCallProximity.Proofs.Platform.Dispatch

/-!
# What a platform makes of any commands

A host carries out whatever commands it is handed, repeated and unbalanced ones too, while time
passes and the timer rings in between. What reaches the platform is told by the commands and their
times alone:

* the trigger by the commands about it, each with the one before it (`triggerCalls`);
* the sensors by the commands about them, one call each;
* the router by the commands that set the route at once, and by the last delayed switch where it
  comes due (`Stands`).

The invariant behind all three is `Told`: the guard of the trigger remembers the last command about
it, and the timer waits for the last delayed switch as long as that stands.
-/

namespace InCallProximity

/-! ## Parts of the platform -/

/-- A part of the platform, with calls of its own. -/
inductive PlatformPart where
  | trigger
  | sensors
  | router
deriving DecidableEq

/-- The part that a call is made to. -/
def PlatformCall.part : PlatformCall → PlatformPart
  | .acquire | .release _ => .trigger
  | .orientation _ | .proximity _ => .sensors
  | .route _ => .router

/-- The part that a command has called at once. -/
def Command.part? (command : Command) : Option PlatformPart := command.call?.map PlatformCall.part

namespace PlatformPart

/-- The calls made to a part, with their times. -/
def calls (part : PlatformPart) (made : List (Nat × PlatformCall)) : List (Nat × PlatformCall) :=
  made.filter (·.2.part = part)

/-- The commands about a part, with their times. -/
def commands (part : PlatformPart) (given : List (Nat × Command)) : List (Nat × Command) :=
  given.filter (·.2.part? = some part)

theorem calls_append (part : PlatformPart) (first rest : List (Nat × PlatformCall)) :
    part.calls (first ++ rest) = part.calls first ++ part.calls rest :=
  List.filter_append ..

theorem commands_append (part : PlatformPart) (first rest : List (Nat × Command)) :
    part.commands (first ++ rest) = part.commands first ++ part.commands rest :=
  List.filter_append ..

end PlatformPart

/-! ## The trigger -/

/-- The call that a command about the trigger leads to, after the one before it: an acquisition
leads to one unless it follows an acquisition, and a release if it does. -/
def triggerCall? (previous : Option Command) : Command → Option PlatformCall
  | .acquireBlankTrigger => if previous = some .acquireBlankTrigger then none else some .acquire
  | .releaseBlankTrigger immediate =>
    if previous = some .acquireBlankTrigger then some (.release immediate) else none
  | _ => none

/-- The calls that commands about the trigger lead to, in order. -/
def triggerCalls (previous : Option Command) : List (Nat × Command) → List (Nat × PlatformCall)
  | [] => []
  | (time, command) :: rest =>
    ((triggerCall? previous command).map (time, ·)).toList ++ triggerCalls (some command) rest

/-- The last of the commands. -/
def lastCommand? (given : List (Nat × Command)) : Option Command := given.getLast?.map Prod.snd

theorem lastCommand?_concat (given : List (Nat × Command)) (time : Nat) (command : Command) :
    lastCommand? (given ++ [(time, command)]) = some command := by
  unfold lastCommand?
  rw [List.getLast?_append]
  rfl

theorem triggerCalls_concat (previous : Option Command) (given : List (Nat × Command)) (time : Nat)
    (command : Command) :
    triggerCalls previous (given ++ [(time, command)]) =
      triggerCalls previous given ++
        ((triggerCall? ((lastCommand? given).or previous) command).map (time, ·)).toList := by
  induction given generalizing previous with
  | nil => exact List.append_nil _
  | cons first rest ih =>
    have last : (lastCommand? rest).or (some first.2) =
        (lastCommand? (first :: rest)).or previous := by
      unfold lastCommand?
      rw [List.getLast?_cons]
      cases rest.getLast? <;> rfl
    rw [List.cons_append, triggerCalls, ih, last, triggerCalls, List.append_assoc]

namespace Platform

/-- What a command adds to the calls: nothing, if it asks the trigger for the level that it has, and
otherwise what it asks for. -/
theorem dispatch_calls_eq (p : Platform) (now : Nat) (command : Command) :
    (p.dispatch now command).calls = p.calls ++
      if Capability.blanking.ofCommand? command = some p.device.held then []
      else Command.calls now [command] := by
  split
  · next repeated =>
    rcases p with ⟨⟨held, timer⟩, calls, reports, unreported⟩
    cases command <;> cases held <;> first | rfl | cases repeated
  · next differs => exact dispatch_calls now differs

end Platform

theorem eq_of_part?_trigger {command : Command} (about : command.part? = some .trigger) :
    command = .acquireBlankTrigger ∨ ∃ immediate, command = .releaseBlankTrigger immediate := by
  cases command with
  | acquireBlankTrigger => exact Or.inl rfl
  | releaseBlankTrigger immediate => exact Or.inr ⟨immediate, rfl⟩
  | _ => cases about

/-- What the guard of the trigger lets through is the call that follows from the command before. -/
theorem triggerCall?_eq {held : Bool} {previous : Option Command}
    (told : held = true ↔ previous = some .acquireBlankTrigger) {command : Command}
    (about : command.part? = some .trigger) (now : Nat) :
    (if Capability.blanking.ofCommand? command = some held then []
      else Command.calls now [command]) =
      ((triggerCall? previous command).map (now, ·)).toList := by
  by_cases acquired : previous = some .acquireBlankTrigger
  · obtain rfl := told.mpr acquired
    subst acquired
    rcases eq_of_part?_trigger about with rfl | ⟨immediate, rfl⟩ <;> rfl
  · obtain rfl := Bool.eq_false_iff.mpr (mt told.mp acquired)
    unfold triggerCall?
    rcases eq_of_part?_trigger about with rfl | ⟨immediate, rfl⟩ <;>
      (dsimp only; rw [if_neg acquired]; rfl)

theorem calls_triggerCall? (previous : Option Command) (command : Command) (now : Nat) :
    PlatformPart.trigger.calls ((triggerCall? previous command).map (now, ·)).toList =
      ((triggerCall? previous command).map (now, ·)).toList := by
  unfold triggerCall?
  split
  · split <;> rfl
  · split <;> rfl
  · rfl

/-- The calls that commands ask for, each at its time. -/
def calledBy (given : List (Nat × Command)) : List (Nat × PlatformCall) :=
  given.filterMap fun command => command.2.call?.map (command.1, ·)

theorem calledBy_append (first rest : List (Nat × Command)) :
    calledBy (first ++ rest) = calledBy first ++ calledBy rest :=
  List.filterMap_append

theorem PlatformPart.calls_single (part : PlatformPart) (now : Nat) (command : Command) :
    part.calls (Command.calls now [command]) = calledBy (part.commands [(now, command)]) := by
  cases part <;> cases command <;> rfl

namespace Host

/-! ## Runs -/

/-- What happens to a host. -/
inductive Action where
  | dispatch (command : Command)
  /-- time passes, and the timer gets its turn -/
  | wait (span : Nat)
  /-- time passes, and the timer does not get its turn -/
  | jump (span : Nat)
deriving DecidableEq

/-- How much time an action takes. -/
def Action.span : Action → Nat
  | .dispatch _ => 0
  | .wait span | .jump span => span

/-- Carries out an action. -/
def act (h : Host) : Action → Host
  | .dispatch command => h.dispatch command
  | .wait span => h.wait span
  | .jump span => h.jump span

/-- Carries out actions in order, from the start. -/
def run (actions : List Action) : Host := actions.foldl act start

/-- How long actions take together. -/
def elapsed : List Action → Nat
  | [] => 0
  | action :: rest => action.span + elapsed rest

/-- The commands that are handed over from a time on, each with its time. -/
def given (now : Nat) : List Action → List (Nat × Command)
  | [] => []
  | .dispatch command :: rest => (now, command) :: given now rest
  | .wait span :: rest | .jump span :: rest => given (now + span) rest

theorem run_concat (before : List Action) (last : Action) :
    run (before ++ [last]) = (run before).act last :=
  List.foldl_append

theorem elapsed_append (first rest : List Action) :
    elapsed (first ++ rest) = elapsed first + elapsed rest := by
  induction first with
  | nil => exact (Nat.zero_add _).symm
  | cons action first ih => rw [List.cons_append, elapsed, ih, elapsed, Nat.add_assoc]

/-- Handing over a command takes no time. -/
theorem elapsed_dispatch (command : Command) (rest : List Action) :
    elapsed (.dispatch command :: rest) = elapsed rest :=
  Nat.zero_add _

theorem elapsed_concat (before : List Action) (last : Action) :
    elapsed (before ++ [last]) = elapsed before + last.span :=
  elapsed_append before [last]

theorem given_concat (now : Nat) (before : List Action) (last : Action) :
    given now (before ++ [last]) = given now before ++ given (now + elapsed before) [last] := by
  induction before generalizing now with
  | nil => rfl
  | cons next rest ih =>
    rw [elapsed, ← Nat.add_assoc]
    cases next with
    | dispatch command => exact congrArg (_ :: ·) (ih now)
    | wait span => exact ih (now + span)
    | jump span => exact ih (now + span)

theorem run_open (actions : List Action) : (run actions).closed = false := by
  induction actions using List.reverseRecOn with
  | nil => rfl
  | append_singleton before last ih =>
    rw [run_concat]
    cases last with
    | dispatch command => exact (congrArg closed (if_neg (Bool.eq_false_iff.mp ih))).trans ih
    | _ => exact ih

theorem run_dispatch (before : List Action) (command : Command) :
    run (before ++ [.dispatch command]) =
      { run before with
        platform := (run before).platform.dispatch (run before).clock command } := by
  rw [run_concat]
  exact if_neg (Bool.eq_false_iff.mp (run_open before))

/-- While the timer does not get its turn, nothing happens. -/
theorem run_jump (before : List Action) (span : Nat) :
    (run (before ++ [.jump span])).platform = (run before).platform := by
  rw [run_concat]
  rfl

theorem run_clock (actions : List Action) : (run actions).clock = elapsed actions := by
  induction actions using List.reverseRecOn with
  | nil => rfl
  | append_singleton before last ih =>
    rw [elapsed_concat, ← ih]
    cases last with
    | dispatch command => rw [run_dispatch]; rfl
    | _ => rw [run_concat]; rfl

/-! ## The last delayed switch -/

/-- A delayed switch was asked for, and it still stands: it was neither replaced nor taken back
since, and no wait has reached its deadline. -/
def Stands (actions : List Action) (waiting : WaitingSwitch) : Prop :=
  ∃ before delay after,
    actions = before ++ .dispatch (.scheduleRouteSwitch waiting.target delay) :: after ∧
      waiting.deadline = elapsed before + delay.toNat ∧
      (∀ command, .dispatch command ∈ after → command.delays? = none) ∧
      ∀ between span later, after = between ++ .wait span :: later →
        elapsed before + elapsed between + span < waiting.deadline

/-- An action leaves a delayed switch standing. -/
def Spares (before : List Action) (waiting : WaitingSwitch) : Action → Prop
  | .dispatch command => command.delays? = none
  | .wait span => elapsed before + span < waiting.deadline
  | .jump _ => True

/-- A switch stands that the last action asks for, or that stood before and is left standing. -/
theorem stands_concat (actions : List Action) (last : Action) (waiting : WaitingSwitch) :
    Stands (actions ++ [last]) waiting ↔
      (∃ delay, last = .dispatch (.scheduleRouteSwitch waiting.target delay) ∧
          waiting.deadline = elapsed actions + delay.toNat) ∨
        Stands actions waiting ∧ Spares actions waiting last := by
  constructor
  · rintro ⟨before, delay, after, split, deadline, kept, early⟩
    rcases concat_eq_append_cons_iff.mp split with ⟨rfl, same, -⟩ | ⟨sooner, rfl, rfl⟩
    · exact Or.inl ⟨delay, same, deadline⟩
    · refine Or.inr ⟨⟨before, delay, sooner, rfl, deadline, ?_, ?_⟩, ?_⟩
      · exact fun command among => kept command (List.mem_append_left _ among)
      · intro between span later there
        exact early between span (later ++ [last])
          (concat_eq_append_cons_iff.mpr (Or.inr ⟨later, rfl, there⟩))
      · cases last with
        | dispatch command =>
          exact kept command (List.mem_append_right _ (List.mem_singleton_self _))
        | wait span =>
          change elapsed (before ++ .dispatch _ :: sooner) + span < waiting.deadline
          rw [elapsed_append, elapsed_dispatch]
          exact early sooner span [] rfl
        | jump span => trivial
  · rintro (⟨delay, rfl, deadline⟩ | ⟨⟨before, delay, after, rfl, deadline, kept, early⟩, spares⟩)
    · refine ⟨actions, delay, [], rfl, deadline, nofun, ?_⟩
      intro between span later there
      exact absurd there.symm (List.append_ne_nil_of_right_ne_nil _ (List.cons_ne_nil _ _))
    · refine ⟨before, delay, after ++ [last], ?_, deadline, ?_, ?_⟩
      · rw [List.append_assoc, List.cons_append]
      · intro command among
        rcases List.mem_append.mp among with there | here
        · exact kept command there
        · obtain rfl := List.mem_singleton.mp here
          exact spares
      · intro between span later there
        rcases concat_eq_append_cons_iff.mp there with ⟨rfl, rfl, -⟩ | ⟨sooner, -, there⟩
        · change elapsed (before ++ _ :: after) + span < waiting.deadline at spares
          rwa [elapsed_append, elapsed_dispatch] at spares
        · exact early between span sooner there

/-- What the timer waits for is the delayed switch that stands. -/
theorem waiting_iff_stands (actions : List Action) (waiting : WaitingSwitch) :
    (run actions).platform.device.timer.waiting = some waiting ↔ Stands actions waiting := by
  induction actions using List.reverseRecOn generalizing waiting with
  | nil =>
    refine ⟨(fun waits => by cases waits), ?_⟩
    rintro ⟨before, delay, after, split, -⟩
    exact absurd split.symm (List.append_ne_nil_of_right_ne_nil _ (List.cons_ne_nil _ _))
  | append_singleton before last ih =>
    rw [stands_concat, ← ih]
    cases last with
    | dispatch command =>
      have followed : (run (before ++ [.dispatch command])).platform.device.timer =
          (run before).platform.device.timer.follow (elapsed before) command := by
        rw [run_dispatch, ← run_clock]
        exact Platform.dispatch_timer ..
      rw [followed]
      rcases waiting with ⟨target, deadline⟩
      cases command <;>
        simp [RouteTimer.follow, RouteTimer.schedule, RouteTimer.cancel, RouteTimer.idle, Spares,
          Command.delays?, eq_comm]
    | wait span =>
      have waited : (run (before ++ [.wait span])).platform =
          CommandSink.wait (run before).platform (elapsed before) span := by
        rw [run_concat, ← run_clock]
        rfl
      rw [waited]
      rcases (run before).platform.wait_cases (elapsed before) span with
        ⟨early, stays⟩ | ⟨other, waits, due, rung⟩
      · rw [stays]
        constructor
        · exact fun waits => Or.inr ⟨waits, early waiting waits⟩
        · rintro (⟨delay, same, -⟩ | ⟨waits, -⟩)
          · cases same
          · exact waits
      · rw [rung]
        refine ⟨(fun waits => by cases waits), ?_⟩
        rintro (⟨delay, same, -⟩ | ⟨waitsToo, early⟩)
        · cases same
        · obtain rfl : other = waiting := Option.some.inj (waits.symm.trans waitsToo)
          exact absurd due (Nat.not_le_of_lt early)
    | jump span =>
      rw [run_jump]
      simp [Spares]

/-! ## Calls -/

theorem calls_dispatch (before : List Action) (command : Command) :
    (run (before ++ [.dispatch command])).platform.calls = (run before).platform.calls ++
      if Capability.blanking.ofCommand? command = some (run before).isHeld then []
      else Command.calls (elapsed before) [command] := by
  rw [run_dispatch, ← run_clock]
  exact Platform.dispatch_calls_eq ..

theorem isHeld_dispatch (before : List Action) (command : Command) :
    (run (before ++ [.dispatch command])).isHeld =
      (Capability.blanking.ofCommand? command).getD (run before).isHeld := by
  rw [run_dispatch]
  exact Platform.dispatch_held ..

/-- In a wait the router is called, or nothing happens. -/
theorem calls_wait (before : List Action) (span : Nat) :
    (run (before ++ [.wait span])).isHeld = (run before).isHeld ∧
      (((∀ waiting, Stands before waiting → elapsed before + span < waiting.deadline) ∧
          (run (before ++ [.wait span])).platform.calls = (run before).platform.calls) ∨
        ∃ waiting, Stands before waiting ∧ waiting.deadline ≤ elapsed before + span ∧
          (run (before ++ [.wait span])).platform.calls = (run before).platform.calls ++
            [(max waiting.deadline (elapsed before), .route waiting.target)]) := by
  simp only [← waiting_iff_stands, ← run_clock]
  rw [run_concat]
  change (CommandSink.wait (run before).platform (run before).clock span).device.held = _ ∧
    ((_ ∧ (CommandSink.wait (run before).platform (run before).clock span).calls = _) ∨
      ∃ waiting, _ ∧ _ ∧
        (CommandSink.wait (run before).platform (run before).clock span).calls = _)
  rcases (run before).platform.wait_cases (run before).clock span with
    ⟨early, stays⟩ | ⟨waiting, waits, due, rung⟩
  · rw [stays]
    exact ⟨rfl, Or.inl ⟨early, rfl⟩⟩
  · rw [rung]
    exact ⟨rfl, Or.inr ⟨waiting, waits, due, rfl⟩⟩

/-- The trigger and the sensors are called as the commands about them tell, and the guard of the
trigger remembers the last one. -/
structure Told (actions : List Action) : Prop where
  held : (run actions).isHeld = true ↔
    lastCommand? (PlatformPart.trigger.commands (given 0 actions)) = some .acquireBlankTrigger
  trigger : PlatformPart.trigger.calls (run actions).platform.calls =
    triggerCalls none (PlatformPart.trigger.commands (given 0 actions))
  sensors : PlatformPart.sensors.calls (run actions).platform.calls =
    calledBy (PlatformPart.sensors.commands (given 0 actions))
  level : level (Capability.blanking.callSwitches (run actions).platform.calls) =
    (run actions).isHeld
  alternates : Alternates (Capability.blanking.callSwitches (run actions).platform.calls)

theorem given_dispatch (before : List Action) (command : Command) :
    given 0 (before ++ [.dispatch command]) = given 0 before ++ [(elapsed before, command)] := by
  rw [given_concat, Nat.zero_add]
  rfl

theorem Told.dispatch_grown {before : List Action} (told : Told before) (command : Command) :
    Capability.blanking.callSwitches (run (before ++ [.dispatch command])).platform.calls =
      Capability.blanking.callSwitches (run before).platform.calls ++
        edge (InCallProximity.level
          (Capability.blanking.callSwitches (run before).platform.calls))
          (run (before ++ [.dispatch command])).isHeld := by
  rw [calls_dispatch, isHeld_dispatch, Capability.callSwitches_append, told.level]
  congr 1
  split
  · next repeated =>
    rw [repeated, Option.getD_some, edge_self]
    rfl
  · next differs =>
    rw [Capability.callSwitches_calls]
    unfold Capability.switches
    cases switched : Capability.blanking.ofCommand? command with
    | none =>
      rw [List.filterMap_cons_none switched, Option.getD_none, edge_self]
      rfl
    | some is =>
      rw [List.filterMap_cons_some switched, Option.getD_some, edge, if_neg]
      · rfl
      · rintro rfl
        exact differs switched

theorem Told.dispatch {before : List Action} (told : Told before) (command : Command) :
    Told (before ++ [.dispatch command]) := by
  have grown := told.dispatch_grown command
  have aside (other : command.part? ≠ some .trigger) :
      PlatformPart.trigger.commands [(elapsed before, command)] = [] ∧
        Capability.blanking.ofCommand? command = none := by
    cases command <;> first | exact ⟨rfl, rfl⟩ | exact absurd rfl other
  refine ⟨?_, ?_, ?_, ?_, ?_⟩
  · rw [isHeld_dispatch, given_dispatch, PlatformPart.commands_append]
    by_cases about : command.part? = some .trigger
    · rcases eq_of_part?_trigger about with rfl | ⟨immediate, rfl⟩
      · exact iff_of_true rfl (lastCommand?_concat ..)
      · refine iff_of_false Bool.false_ne_true fun same => ?_
        cases (lastCommand?_concat ..).symm.trans same
    · rw [(aside about).1, (aside about).2, List.append_nil]
      exact told.held
  · rw [calls_dispatch, given_dispatch, PlatformPart.calls_append, PlatformPart.commands_append,
      told.trigger]
    by_cases about : command.part? = some .trigger
    · have among : PlatformPart.trigger.commands [(elapsed before, command)] =
          [(elapsed before, command)] := List.filter_cons_of_pos (decide_eq_true about)
      rw [triggerCall?_eq told.held about, calls_triggerCall?, among, triggerCalls_concat,
        Option.or_none]
    · rw [(aside about).1, (aside about).2, if_neg nofun, PlatformPart.calls_single,
        (aside about).1, List.append_nil]
      exact List.append_nil _
  · rw [calls_dispatch, given_dispatch, PlatformPart.calls_append, PlatformPart.commands_append,
      told.sensors, calledBy_append]
    congr 1
    split
    · next repeated => cases command <;> first | rfl | cases repeated
    · exact PlatformPart.calls_single ..
  · rw [grown, level_append_edge]
  · rw [grown]
    exact told.alternates.append_edge _

/-- Calls to the router change nothing about the other parts. -/
theorem Told.of_router {actions more : List Action} (told : Told actions)
    (held : (run more).isHeld = (run actions).isHeld)
    (given_eq : given 0 more = given 0 actions)
    (calls : (run more).platform.calls = (run actions).platform.calls ∨
      ∃ time route, (run more).platform.calls =
        (run actions).platform.calls ++ [(time, .route route)]) : Told more := by
  have same : PlatformPart.trigger.calls (run more).platform.calls =
        PlatformPart.trigger.calls (run actions).platform.calls ∧
      PlatformPart.sensors.calls (run more).platform.calls =
        PlatformPart.sensors.calls (run actions).platform.calls ∧
      Capability.blanking.callSwitches (run more).platform.calls =
        Capability.blanking.callSwitches (run actions).platform.calls := by
    rcases calls with calls | ⟨time, route, calls⟩
    · rw [calls]
      exact ⟨rfl, rfl, rfl⟩
    · rw [calls, PlatformPart.calls_append, PlatformPart.calls_append,
        Capability.callSwitches_append]
      exact ⟨List.append_nil _, List.append_nil _, List.append_nil _⟩
  obtain ⟨trigger, sensors, switches⟩ := same
  exact ⟨by rw [held, given_eq]; exact told.held, by rw [trigger, given_eq]; exact told.trigger,
    by rw [sensors, given_eq]; exact told.sensors, by rw [switches, held]; exact told.level,
    by rw [switches]; exact told.alternates⟩

theorem run_told (actions : List Action) : Told actions := by
  induction actions using List.reverseRecOn with
  | nil => exact ⟨iff_of_false Bool.false_ne_true nofun, rfl, rfl, rfl, Alternates.nil⟩
  | append_singleton before last ih =>
    cases last with
    | dispatch command => exact ih.dispatch command
    | wait span =>
      have given_eq : given 0 (before ++ [.wait span]) = given 0 before :=
        (given_concat ..).trans (List.append_nil _)
      obtain ⟨held, ⟨-, calls⟩ | ⟨waiting, -, -, calls⟩⟩ := calls_wait before span
      · exact ih.of_router held given_eq (Or.inl calls)
      · exact ih.of_router held given_eq (Or.inr ⟨_, _, calls⟩)
    | jump span =>
      have jumped := run_jump before span
      exact ih.of_router (congrArg (·.device.held) jumped)
        ((given_concat ..).trans (List.append_nil _)) (Or.inl (congrArg Platform.calls jumped))

/-- **The platform is guarded from any commands.** Whatever commands a host is handed, at whatever
times, and with the timer getting its turn or not:

* the trigger is acquired and released in turn, beginning with an acquisition. There is one
  acquisition for each command to acquire it that does not follow another one among the commands
  about it, and one release, as the command has it, for each command to release it that follows one
  to acquire it. The guard holds the trigger exactly if the last of these commands acquires it;
* the sensors are called once for each command about them, in order;
* a command to set the route sets it at once, and leaves the trigger and the delayed switch as they
  are; no other command calls the router;
* the timer waits for the last delayed switch that was asked for, as long as it was neither replaced
  nor taken back nor rang; so one is pending exactly if it stands;
* in a span of time in which the timer gets its turn, the switch that stands sets the route if it
  comes due, at its deadline or at once if it is overdue. If none does, nothing is called, and
  nothing happens either as long as the timer does not get its turn. -/
theorem any_commands_are_guarded (actions : List Action) :
    let h := run actions
    let now := elapsed actions
    let made := h.platform.calls
    let asked := given 0 actions
    (Alternates (Capability.blanking.callSwitches made) ∧
        PlatformPart.trigger.calls made =
          triggerCalls none (PlatformPart.trigger.commands asked) ∧
        (h.isHeld = true ↔
          lastCommand? (PlatformPart.trigger.commands asked) = some .acquireBlankTrigger)) ∧
      PlatformPart.sensors.calls made = calledBy (PlatformPart.sensors.commands asked) ∧
      (∀ target,
        let next := run (actions ++ [.dispatch (.setRoute target)])
        next.platform.calls = made ++ [(now, .route target)] ∧
          next.platform.device = h.platform.device) ∧
      (∀ command, command.part? ≠ some .router →
        PlatformPart.router.calls (run (actions ++ [.dispatch command])).platform.calls =
          PlatformPart.router.calls made) ∧
      (∀ waiting, h.platform.device.timer.waiting = some waiting ↔ Stands actions waiting) ∧
      (h.isSwitchPending = true ↔ ∃ waiting, Stands actions waiting) ∧
      (∀ span,
        let next := run (actions ++ [.wait span])
        (∀ waiting, Stands actions waiting → waiting.deadline ≤ now + span →
            next.platform.calls =
              made ++ [(max waiting.deadline now, .route waiting.target)]) ∧
          ((∀ waiting, Stands actions waiting → now + span < waiting.deadline) →
            next.platform.calls = made)) ∧
      ∀ span, (run (actions ++ [.jump span])).platform = h.platform := by
  intro h now made asked
  have told := run_told actions
  refine ⟨⟨told.alternates, told.trigger, told.held⟩, told.sensors, ?_, ?_,
    waiting_iff_stands actions, ?_, ?_, run_jump actions⟩
  · intro target next
    refine ⟨calls_dispatch actions (.setRoute target), ?_⟩
    exact congrArg (·.platform.device) (run_dispatch actions (.setRoute target))
  · intro command other
    rw [calls_dispatch, PlatformPart.calls_append]
    cases command with
    | setRoute target => exact absurd rfl other
    | acquireBlankTrigger | releaseBlankTrigger immediate =>
      split <;> exact List.append_nil _
    | _ => exact List.append_nil _
  · exact Option.isSome_iff_exists.trans (exists_congr (waiting_iff_stands actions))
  · intro span next
    obtain ⟨-, ⟨early, calls⟩ | ⟨waiting, stands, due, calls⟩⟩ := calls_wait actions span
    · refine ⟨?_, fun _ => calls⟩
      intro waiting stands due
      exact absurd due (Nat.not_le_of_lt (early waiting stands))
    · refine ⟨?_, ?_⟩
      · intro other standsToo _
        rw [← waiting_iff_stands] at stands standsToo
        obtain rfl : waiting = other := Option.some.inj (stands.symm.trans standsToo)
        exact calls
      · exact fun early => absurd due (Nat.not_le_of_lt (early waiting stands))

end Host

end InCallProximity
