import InCallProximity.Platform
import InCallProximity.Proofs.Controller.Readings

/-!
# Commands carried out on a platform

A platform loses no command, so handing over a list of commands is `Platform.dispatchAll`. What
becomes of the parts of a platform is said of the list as a whole:

* the timer follows the commands about the audio route (`dispatchAll_timer`);
* as long as the blanking trigger is not asked for a level that it has, the calls are those that the
  commands ask for, one by one (`dispatchAll_calls`), and the trigger is held or not as it was asked
  last (`dispatchAll_held`).
-/

namespace InCallProximity

/-- The timer after a command. -/
def RouteTimer.follow (now : Nat) (timer : RouteTimer) : Command → RouteTimer
  | .scheduleRouteSwitch target delay => timer.schedule now target delay
  | .cancelScheduledRouteSwitch => timer.cancel
  | _ => timer

/-- What calls switch a capability to, in order. -/
def Capability.callSwitches (κ : Capability) (calls : List (Nat × PlatformCall)) : List Bool :=
  calls.filterMap fun made => κ.ofCall? made.2

theorem Capability.callSwitches_append (κ : Capability) (first rest : List (Nat × PlatformCall)) :
    κ.callSwitches (first ++ rest) = κ.callSwitches first ++ κ.callSwitches rest :=
  List.filterMap_append

/-- The calls that commands ask for, all at one time. -/
def Command.calls (now : Nat) (commands : List Command) : List (Nat × PlatformCall) :=
  (commands.filterMap Command.call?).map (now, ·)

theorem Capability.callSwitches_calls (κ : Capability) (now : Nat) (commands : List Command) :
    κ.callSwitches (Command.calls now commands) = κ.switches commands := by
  unfold Capability.callSwitches Command.calls Capability.switches
  rw [List.filterMap_map, List.filterMap_filterMap]
  rfl

namespace Platform

/-- Carries out commands in order. -/
def dispatchAll (p : Platform) (now : Nat) (commands : List Command) : Platform :=
  commands.foldl (fun p command => p.dispatch now command) p

theorem commandSink_dispatchAll (p : Platform) (now : Nat) (commands : List Command) :
    CommandSink.dispatchAll p now commands = (p.dispatchAll now commands, true) := by
  induction commands generalizing p with
  | nil => rfl
  | cons command rest ih => exact ih (p.dispatch now command)

theorem dispatchAll_append (p : Platform) (now : Nat) (first rest : List Command) :
    p.dispatchAll now (first ++ rest) = (p.dispatchAll now first).dispatchAll now rest :=
  List.foldl_append

theorem dispatch_timer (p : Platform) (now : Nat) (command : Command) :
    (p.dispatch now command).device.timer = p.device.timer.follow now command := by
  cases command <;> rfl

theorem follow_of_not_isRoute {command : Command} (aside : command.isRoute = false) (now : Nat)
    (timer : RouteTimer) : timer.follow now command = timer := by
  cases command <;> first | rfl | cases aside

theorem dispatchAll_timer (p : Platform) (now : Nat) (commands : List Command) :
    (p.dispatchAll now commands).device.timer =
      (Command.routes commands).foldl (RouteTimer.follow now) p.device.timer := by
  induction commands generalizing p with
  | nil => rfl
  | cons command rest ih =>
    refine (ih (p.dispatch now command)).trans ?_
    rw [dispatch_timer]
    unfold Command.routes
    cases route : command.isRoute with
    | true => rw [List.filter_cons_of_pos route, List.foldl_cons]
    | false =>
      rw [List.filter_cons_of_neg (Bool.eq_false_iff.mp route), follow_of_not_isRoute route]

/-- The trigger is asked for levels in turn, beginning with one that it does not have. -/
def Unrepeated (p : Platform) (commands : List Command) : Prop :=
  List.IsChain (· ≠ ·) (p.device.held :: Capability.blanking.switches commands)

/-- A command that asks the trigger for nothing, or for the level that it does not have, leads to
the very call that it asks for. -/
theorem dispatch_calls {p : Platform} {command : Command} (now : Nat)
    (differs : Capability.blanking.ofCommand? command ≠ some p.device.held) :
    (p.dispatch now command).calls = p.calls ++ Command.calls now [command] := by
  rcases p with ⟨⟨held, timer⟩, calls, reports, unreported⟩
  cases command with
  | acquireBlankTrigger =>
    cases held with
    | true => exact absurd rfl differs
    | false => rfl
  | releaseBlankTrigger immediate =>
    cases held with
    | true => rfl
    | false => exact absurd rfl differs
  | _ => rfl

theorem dispatch_held (p : Platform) (now : Nat) (command : Command) :
    (p.dispatch now command).device.held =
      (Capability.blanking.ofCommand? command).getD p.device.held := by
  cases command <;> rfl

/-- What a command leaves to be said of the trigger about the rest. -/
theorem Unrepeated.cons {p : Platform} {command : Command} {rest : List Command}
    (unrepeated : p.Unrepeated (command :: rest)) (now : Nat) :
    Capability.blanking.ofCommand? command ≠ some p.device.held ∧
      (p.dispatch now command).Unrepeated rest := by
  unfold Unrepeated at unrepeated ⊢
  rw [dispatch_held]
  unfold Capability.switches at unrepeated ⊢
  cases switched : Capability.blanking.ofCommand? command with
  | none =>
    rw [List.filterMap_cons_none switched] at unrepeated
    exact ⟨nofun, unrepeated⟩
  | some is =>
    rw [List.filterMap_cons_some switched, List.isChain_cons_cons] at unrepeated
    refine ⟨?_, unrepeated.2⟩
    intro same
    exact unrepeated.1 (Option.some.inj same).symm

theorem dispatchAll_calls {p : Platform} {commands : List Command}
    (unrepeated : p.Unrepeated commands) (now : Nat) :
    (p.dispatchAll now commands).calls = p.calls ++ Command.calls now commands := by
  induction commands generalizing p with
  | nil => exact (List.append_nil _).symm
  | cons command rest ih =>
    obtain ⟨differs, unrepeated⟩ := unrepeated.cons now
    calc (p.dispatchAll now (command :: rest)).calls
        = (p.dispatch now command).calls ++ Command.calls now rest := ih unrepeated
      _ = p.calls ++ Command.calls now [command] ++ Command.calls now rest := by
          rw [dispatch_calls now differs]
      _ = p.calls ++ Command.calls now (command :: rest) := by
          unfold Command.calls
          rw [List.append_assoc, ← List.map_append, ← List.filterMap_append]
          rfl

theorem dispatchAll_held (p : Platform) (now : Nat) (commands : List Command) :
    (p.dispatchAll now commands).device.held =
      (Capability.blanking.switches commands).getLast?.getD p.device.held := by
  induction commands using List.reverseRecOn with
  | nil => rfl
  | append_singleton before last ih =>
    rw [dispatchAll_append]
    refine (dispatch_held _ now last).trans ?_
    rw [Capability.switches_append, List.getLast?_append, ih]
    unfold Capability.switches
    cases switched : Capability.blanking.ofCommand? last with
    | none => rw [List.filterMap_cons_none switched]; rfl
    | some is => rw [List.filterMap_cons_some switched]; rfl

/-- Commands that ask the trigger for the edge to a level do not repeat one. -/
theorem unrepeated_of_edge {p : Platform} {commands : List Command} {is : Bool}
    (edged : Capability.blanking.switches commands = edge p.device.held is) :
    p.Unrepeated commands := by
  unfold Unrepeated
  rw [edged]
  unfold edge
  split
  · exact List.isChain_singleton _
  · next differs => exact List.isChain_pair.mpr fun same => differs same.symm

theorem dispatchAll_held_of_edge {p : Platform} {commands : List Command} {is : Bool}
    (edged : Capability.blanking.switches commands = edge p.device.held is) (now : Nat) :
    (p.dispatchAll now commands).device.held = is := by
  rw [dispatchAll_held, edged]
  unfold edge
  split
  · next same => exact same.symm
  · rfl

/-! ## The timer's turn -/

/-- Nothing happens in a span of time that ends before the deadline of the waiting switch; in any
other one the switch reaches the platform, at its deadline or at once if it is overdue, and the
timer is idle. -/
theorem wait_cases (p : Platform) (now span : Nat) :
    ((∀ waiting, p.device.timer.waiting = some waiting → now + span < waiting.deadline) ∧
        CommandSink.wait p now span = p) ∨
      ∃ waiting, p.device.timer.waiting = some waiting ∧ waiting.deadline ≤ now + span ∧
        CommandSink.wait p now span =
          p.note { p.device with timer := .idle } (max waiting.deadline now)
            [.route waiting.target] := by
  rcases p with ⟨⟨held, ⟨_ | waiting⟩⟩, calls, reports, unreported⟩
  · exact Or.inl ⟨nofun, rfl⟩
  · let p : Platform := ⟨⟨held, ⟨some waiting⟩⟩, calls, reports, unreported⟩
    have rings : CommandSink.ringTime? p now span =
        if waiting.deadline ≤ now + span then some (max waiting.deadline now) else none := rfl
    unfold CommandSink.wait
    rw [rings]
    by_cases due : waiting.deadline ≤ now + span
    · rw [if_pos due]
      exact Or.inr ⟨waiting, rfl, due, rfl⟩
    · rw [if_neg due]
      refine Or.inl ⟨?_, rfl⟩
      rintro _ ⟨⟩
      exact Nat.lt_of_not_le due

/-- Nothing happens before the deadline of a waiting switch; at it or later the switch reaches the
platform, and the timer is idle. -/
theorem turn_cases (p : Platform) (now : Nat) :
    ((∀ waiting, p.device.timer.waiting = some waiting → now < waiting.deadline) ∧
        CommandSink.wait p now 0 = p) ∨
      ∃ waiting, p.device.timer.waiting = some waiting ∧ waiting.deadline ≤ now ∧
        CommandSink.wait p now 0 =
          p.note { p.device with timer := .idle } now [.route waiting.target] := by
  rcases p.wait_cases now 0 with ⟨early, stays⟩ | ⟨waiting, waits, due, rung⟩
  · exact Or.inl ⟨early, stays⟩
  · rw [Nat.add_zero] at due
    rw [Nat.max_eq_right due] at rung
    exact Or.inr ⟨waiting, waits, due, rung⟩

end Platform

end InCallProximity
