import InCallProximity.Proofs.Session.Moves

/-!
# The platform mirrors the decision

In every run of a session on a platform the three capabilities are switched as the controller
decides and as the snapshot wants. One invariant carries this (`Mirrors`): the controller is in step
with its snapshot, and the calls made so far alternate on each capability and end at the level that
the controller last asked for. A move adds at most one switch on a capability, the edge between two
levels of the controller (`Controller.handle_edged`), and the timer adds none.
-/

namespace InCallProximity

/-- The call sets the audio route. -/
def PlatformCall.isRoute : PlatformCall → Bool
  | .route _ => true
  | .acquire | .release _ | .orientation _ | .proximity _ => false

/-- The calls that do not set the audio route, in order. -/
def PlatformCall.unrouted (calls : List PlatformCall) : List PlatformCall :=
  calls.filter fun call => !call.isRoute

/-- What the calls made to a platform switched a capability to, in order. -/
def Platform.switches (p : Platform) (κ : Capability) : List Bool := κ.callSwitches p.calls

namespace Session

/-- What a move makes of the levels of the controller: its commands are edges. -/
theorem outcome_edged (s : Session Platform) (next : Move) :
    (s.outcome next).Edged s.controller := by
  cases next with
  | apply event => exact s.controller.handle_edged event _ _
  | teardown => exact s.controller.teardown_edged
  | _ => exact fun κ => (edge_self _).symm

theorem outcome_inStep {s : Session Platform} (inStep : s.controller.InStep) (next : Move) :
    (s.outcome next).1.InStep := by
  cases next with
  | apply event => exact Controller.handle_inStep inStep event _ _
  | teardown => exact Controller.teardown_inStep inStep
  | _ => exact inStep

/-- The platform mirrors the decision. -/
structure Mirrors (s : Session Platform) : Prop where
  inStep : s.controller.InStep
  held : s.sink.device.held = s.controller.blanking.armed
  asked : ∀ κ, level (s.sink.switches κ) = κ.asked s.controller
  alternates : ∀ κ, Alternates (s.sink.switches κ)

theorem start_mirrors (source : SettingsSource) (reports : Bool) :
    (start source (Platform.idle reports)).Mirrors where
  inStep := Controller.initial_inStep
  held := rfl
  asked κ := by cases κ <;> rfl
  alternates κ := Alternates.nil

/-- The blanking commands of a move are the edge from the trigger's state. -/
theorem Mirrors.edged {s : Session Platform} (mirrors : s.Mirrors) (next : Move) :
    Capability.blanking.switches (s.outcome next).2 =
      edge s.sink.device.held (s.outcome next).1.blanking.armed := by
  rw [mirrors.held]
  exact s.outcome_edged next .blanking

/-- The calls that a move adds: those that its commands ask for, or the route of the timer. -/
theorem Mirrors.move_calls {s : Session Platform} (mirrors : s.Mirrors) (next : Move) :
    (s.move next).sink.calls = s.sink.calls ++ Command.calls s.clock (s.outcome next).2 ∨
      (s.outcome next).2 = [] ∧ ∃ route,
        (s.move next).sink.calls = s.sink.calls ++ [(s.clock, .route route)] := by
  rcases s.move_cases next with ⟨-, carried⟩ | ⟨rfl, waiting, -, -, -, rung⟩
  · rw [carried]
    exact Or.inl (Platform.dispatchAll_calls (Platform.unrepeated_of_edge (mirrors.edged next)) _)
  · exact Or.inr ⟨rfl, waiting.target, rung⟩

/-- On each capability a move adds the switches that its commands ask for. -/
theorem Mirrors.move_switches {s : Session Platform} (mirrors : s.Mirrors) (next : Move)
    (κ : Capability) :
    (s.move next).sink.switches κ = s.sink.switches κ ++ κ.switches (s.outcome next).2 := by
  unfold Platform.switches
  rcases mirrors.move_calls next with calls | ⟨silent, route, calls⟩
  · rw [calls, κ.callSwitches_append, κ.callSwitches_calls]
  · rw [calls, κ.callSwitches_append, silent]
    cases κ <;> rfl

theorem Mirrors.move_held {s : Session Platform} (mirrors : s.Mirrors) (next : Move) :
    (s.move next).sink.device.held = (s.outcome next).1.blanking.armed := by
  rcases s.move_cases next with ⟨carried, -⟩ | ⟨rfl, waiting, -, -, rung, -⟩
  · rw [carried]
    exact Platform.dispatchAll_held_of_edge (mirrors.edged next) _
  · rw [rung]
    exact mirrors.held

/-- Every move keeps the platform a mirror of the decision. -/
theorem Mirrors.move {s : Session Platform} (mirrors : s.Mirrors) (next : Move) :
    (s.move next).Mirrors := by
  have grown : ∀ κ, (s.move next).sink.switches κ =
      s.sink.switches κ ++
        edge (level (s.sink.switches κ)) (κ.asked (s.move next).controller) := by
    intro κ
    rw [mirrors.move_switches, mirrors.asked, move_controller]
    exact congrArg _ (s.outcome_edged next κ)
  refine ⟨?_, ?_, ?_, ?_⟩
  · rw [move_controller]
    exact outcome_inStep mirrors.inStep next
  · rw [move_controller]
    exact mirrors.move_held next
  · intro κ
    rw [grown, level_append_edge]
  · intro κ
    rw [grown]
    exact (mirrors.alternates κ).append_edge _

theorem run_mirrors (source : SettingsSource) (reports : Bool) (moves : List Move) :
    ((start source (Platform.idle reports)).run moves).Mirrors :=
  run_induction (start_mirrors source reports) (fun _ next mirrors => mirrors.move next) moves

/-! ## Nothing is swallowed -/

/-- In every run the calls that do not set the route are those that the commands ask for: neither
does the guard of the trigger swallow one, nor is another one made. -/
theorem run_unrouted (source : SettingsSource) (reports : Bool) (moves : List Move) :
    PlatformCall.unrouted
        (((start source (Platform.idle reports)).run moves).sink.calls.map Prod.snd) =
      PlatformCall.unrouted
        (((start source (Platform.idle reports)).decided moves).filterMap Command.call?) := by
  induction moves using List.reverseRecOn with
  | nil => rfl
  | append_singleton before last ih =>
    rw [run_concat, decided_concat, List.filterMap_append]
    unfold PlatformCall.unrouted at ih ⊢
    rw [List.filter_append, ← ih]
    rcases (run_mirrors source reports before).move_calls last with calls | ⟨silent, route, calls⟩
    · rw [calls, List.map_append, List.filter_append]
      unfold Command.calls
      rw [List.map_map]
      exact congrArg _ (congrArg _ (List.map_id _))
    · rw [calls, silent, List.map_append, List.filter_append]
      rfl

/-! ## The end of the call screen -/

/-- Once the call screen is gone, every capability is off and stays as it is. -/
theorem Mirrors.run_of_tornDown {s : Session Platform} (mirrors : s.Mirrors)
    (gone : s.controller.tornDown = true) (moves : List Move) (κ : Capability) :
    level (s.sink.switches κ) = false ∧
      (s.run moves).sink.switches κ = s.sink.switches κ := by
  constructor
  · rw [mirrors.asked, mirrors.inStep, gone]
    rfl
  · induction moves generalizing s with
    | nil => rfl
    | cons next rest ih =>
      have silent := outcome_of_tornDown gone next
      have stays : (s.move next).sink.switches κ = s.sink.switches κ := by
        rw [mirrors.move_switches, silent]
        exact List.append_nil _
      rw [run_cons, ih (mirrors.move next) (by rw [move_controller, silent]; exact gone), stays]

/-- **The platform mirrors the decision.** In every run of a session on a platform, each capability
is switched on and off in turn, beginning with on, and no command about one is swallowed. Until the
call screen ends, each is on exactly if the snapshot wants it on, which is also what the controller
and the guard of the trigger remember of the trigger. Once the call screen has ended, each is off,
and is never switched again. -/
theorem platform_mirrors_decision (source : SettingsSource) (reports : Bool) (moves : List Move) :
    let first := start source (Platform.idle reports)
    let s := first.run moves
    (∀ κ, Alternates (s.sink.switches κ)) ∧
      PlatformCall.unrouted (s.sink.calls.map Prod.snd) =
        PlatformCall.unrouted ((first.decided moves).filterMap Command.call?) ∧
      (.teardown ∉ moves →
        s.controller.blanking.armed = s.controller.snapshot.blanking.arm ∧
          s.sink.device.held = s.controller.snapshot.blanking.arm ∧
          ∀ κ, (s.sink.switches κ).getLast? = some true ↔
            κ.wanted s.controller.snapshot = true) ∧
      ∀ before after, moves = before ++ .teardown :: after →
        ∀ κ, (s.sink.switches κ).getLast? ≠ some true ∧
          s.sink.switches κ = (first.run (before ++ [.teardown])).sink.switches κ := by
  intro first s
  have mirrors : s.Mirrors := run_mirrors source reports moves
  refine ⟨mirrors.alternates, run_unrouted source reports moves, ?_, ?_⟩
  · intro lasts
    have alive : s.controller.tornDown = false := run_alive rfl lasts
    have asked : ∀ κ : Capability, κ.asked s.controller = κ.wanted s.controller.snapshot := by
      intro κ
      rw [mirrors.inStep κ, alive]
      rfl
    refine ⟨asked .blanking, mirrors.held.trans (asked .blanking), ?_⟩
    intro κ
    rw [getLast?_eq_some_true_iff, mirrors.asked, asked]
  · intro before after split κ
    have ended : (first.run (before ++ [.teardown])).Mirrors := run_mirrors source reports _
    have gone : (first.run (before ++ [.teardown])).controller.tornDown = true := by
      rw [run_concat, move_controller, outcome_tornDown]
      exact Bool.or_true _
    have reached : s = (first.run (before ++ [.teardown])).run after := by
      rw [← run_append, List.append_assoc, List.singleton_append, ← split]
    obtain ⟨off, stays⟩ := ended.run_of_tornDown gone after κ
    rw [reached, stays, ne_eq, getLast?_eq_some_true_iff, off]
    exact ⟨Bool.false_ne_true, rfl⟩

end Session

end InCallProximity
