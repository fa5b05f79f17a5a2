import InCallProximity.Proofs.Platform.Dispatch
import InCallProximity.Session

/-!
# Runs of a session

A run of a session is a list of moves, each as small as it can be: an event is applied, the user
changes settings, the call screen ends, time passes, the timer gets its turn, or the routes to be
reported back are collected. Time and the timer move apart from each other and from the events, so
the runs include every order of them, with a timer that gets its turn late or never.

`Session.wait`, in which time passes and the timer rings on the dot, is a run
(`run_waitMoves`): what holds of all runs holds throughout it.
-/

namespace InCallProximity.Session

/-- What can happen to a session. A session that is dropped is torn down. -/
inductive Move where
  | apply (event : Event)
  | share (settings : Settings)
  | teardown
  /-- time passes, in milliseconds, and nothing else happens -/
  | pass (span : Nat)
  /-- the timer gets its turn, and rings if its time has come -/
  | ring
  /-- the routes that were set are collected, to be reported back -/
  | collect
deriving DecidableEq

section Runs

variable {β : Type}

/-- What the controller makes of a move. -/
def outcome (s : Session β) : Move → Controller.Outcome
  | .apply event => s.controller.handle event s.settings.current s.clock
  | .teardown => s.controller.teardown
  | .share _ | .pass _ | .ring | .collect => (s.controller, [])

theorem outcome_tornDown (s : Session β) (next : Move) :
    (s.outcome next).1.tornDown = (s.controller.tornDown || next = .teardown) := by
  cases next with
  | apply event =>
    refine (s.controller.handle_tornDown event _ _).trans ?_
    exact (Bool.or_false _).symm
  | teardown =>
    refine s.controller.teardown_tornDown.trans ?_
    exact (Bool.or_true _).symm
  | _ => exact (Bool.or_false _).symm

/-- Once the call screen is gone, a move means nothing to the controller. -/
theorem outcome_of_tornDown {s : Session β} (gone : s.controller.tornDown = true) (next : Move) :
    s.outcome next = (s.controller, []) := by
  cases next with
  | apply event => exact if_pos gone
  | teardown => exact if_pos gone
  | _ => rfl

variable [CommandSink β]

/-- Makes a move. -/
def move (s : Session β) : Move → Session β
  | .apply event => (s.apply event).1
  | .share settings => s.share settings
  | .teardown => s.teardown.1
  | .pass span => s.jump span
  | .ring => { s with sink := CommandSink.wait s.sink s.clock 0 }
  | .collect => { s with sink := (CommandSink.report s.sink).1 }

/-- Makes moves in order. -/
def run (s : Session β) (moves : List Move) : Session β := moves.foldl move s

/-- The commands that the controller decides on in a run, in order. -/
def decided (s : Session β) : List Move → List Command
  | [] => []
  | next :: rest => (s.outcome next).2 ++ (s.move next).decided rest

@[simp] theorem run_nil (s : Session β) : s.run [] = s := rfl

theorem run_cons (s : Session β) (next : Move) (rest : List Move) :
    s.run (next :: rest) = (s.move next).run rest := rfl

theorem run_append (s : Session β) (before after : List Move) :
    s.run (before ++ after) = (s.run before).run after :=
  List.foldl_append

theorem run_concat (s : Session β) (before : List Move) (last : Move) :
    s.run (before ++ [last]) = (s.run before).move last := by
  rw [run_append, run_cons, run_nil]

theorem decided_concat (s : Session β) (before : List Move) (last : Move) :
    s.decided (before ++ [last]) = s.decided before ++ ((s.run before).outcome last).2 := by
  induction before generalizing s with
  | nil => exact List.append_nil _
  | cons next rest ih =>
    change (s.outcome next).2 ++ (s.move next).decided (rest ++ [last]) = _
    rw [ih, ← List.append_assoc]
    rfl

theorem move_controller (s : Session β) (next : Move) :
    (s.move next).controller = (s.outcome next).1 := by
  cases next <;> rfl

/-- What every move keeps holds after every run. -/
theorem run_induction {holds : Session β → Prop} {s : Session β} (starts : holds s)
    (keeps : ∀ (s : Session β) (next : Move), holds s → holds (s.move next)) (moves : List Move) :
    holds (s.run moves) := by
  induction moves generalizing s with
  | nil => exact starts
  | cons next rest ih => exact ih (keeps s next starts)

/-! ## The end of the call screen -/

theorem run_alive {s : Session β} (alive : s.controller.tornDown = false) {moves : List Move}
    (lasts : .teardown ∉ moves) : (s.run moves).controller.tornDown = false := by
  induction moves generalizing s with
  | nil => exact alive
  | cons next rest ih =>
    rw [List.mem_cons, not_or] at lasts
    refine ih ?_ lasts.2
    rw [move_controller, outcome_tornDown, alive, Bool.false_or]
    exact decide_eq_false fun same => lasts.1 same.symm

/-! ## Waiting is a run -/

/-- The moves in which routes are reported back. -/
def reportMoves (s : Session β) : List Move :=
  .collect :: (CommandSink.report s.sink).2.map fun route => .apply (.audioRouteChanged route)

theorem run_reportMoves (s : Session β) : s.run s.reportMoves = s.report := by
  change List.foldl move (s.move .collect) ((CommandSink.report s.sink).2.map _) =
    List.foldl _ { s with sink := (CommandSink.report s.sink).1 } (CommandSink.report s.sink).2
  exact List.foldl_map

theorem report_clock (s : Session β) : s.report.clock = s.clock := by
  unfold report
  rcases CommandSink.report s.sink with ⟨sink, routes⟩
  change (List.foldl _ { s with sink } routes).clock = ({ s with sink } : Session β).clock
  generalize ({ s with sink } : Session β) = start
  induction routes generalizing start with
  | nil => rfl
  | cons route rest ih => exact ih _

/-- The moves of a wait. -/
def waitMoves (s : Session β) (span : Nat) : List Move :=
  s.reportMoves ++
    match CommandSink.ringTime? s.report.sink s.clock span with
    | some time =>
      let reached := (s.report.move (.pass (time - s.clock))).move .ring
      .pass (time - s.clock) :: .ring :: reached.reportMoves ++ [.pass (s.clock + span - time)]
    | none => [.pass span]

/-- Whatever is due at some time in a span is due when that time has come. -/
theorem wait_of_ringTime? {sink : β} {now span time : Nat}
    (rings : CommandSink.ringTime? sink now span = some time) :
    now ≤ time ∧ time ≤ now + span ∧ CommandSink.wait sink time 0 = CommandSink.ring sink time := by
  unfold CommandSink.ringTime? at rings
  unfold CommandSink.wait CommandSink.ringTime?
  cases due : CommandSink.deadline? sink with
  | none =>
    rw [due] at rings
    cases rings
  | some deadline =>
    rw [due] at rings
    dsimp only at rings ⊢
    split at rings
    · next within =>
      cases rings
      refine ⟨Nat.le_max_right _ _, by omega, ?_⟩
      rw [if_pos (by omega), Nat.max_eq_right (Nat.le_max_left _ _)]
    · cases rings

theorem run_waitMoves (s : Session β) (span : Nat) : s.run (s.waitMoves span) = s.wait span := by
  unfold waitMoves wait
  rw [run_append, run_reportMoves]
  cases rings : CommandSink.ringTime? s.report.sink s.clock span with
  | none =>
    change { s.report with clock := s.report.clock + span } = _
    rw [report_clock]
    dsimp only
    rw [rings]
  | some time =>
    obtain ⟨early, late, rung⟩ := wait_of_ringTime? rings
    have reached : s.report.clock + (time - s.clock) = time := by
      rw [report_clock]
      omega
    -- the state in which the timer has just rung, at the time at which it rings in a wait
    have ringing : (s.report.move (.pass (time - s.clock))).move .ring =
        { s.report with sink := CommandSink.ring s.report.sink time, clock := time } := by
      change ({ s.report with
        sink := CommandSink.wait s.report.sink (s.report.clock + (time - s.clock)) 0
        clock := s.report.clock + (time - s.clock) } : Session β) = _
      rw [reached, rung]
    dsimp only
    rw [List.cons_append, List.cons_append, run_cons, run_cons, ringing, run_append,
      run_reportMoves]
    dsimp only
    rw [rings]
    dsimp only
    generalize rungAt : ({ s.report with
      sink := CommandSink.ring s.report.sink time, clock := time } : Session β) = rungThere
    have clock : rungThere.report.clock = time := by
      rw [report_clock, ← rungAt]
    change { rungThere.report with
      clock := rungThere.report.clock + (s.clock + span - time) } = _
    rw [clock, Nat.add_sub_of_le late]

end Runs

/-! ## Moves of a session on a platform -/

/-- What a move does to the device and the calls: the commands of the move are carried out, or the
timer rings, with the switch that it waited for. -/
theorem move_cases (s : Session Platform) (next : Move) :
    ((s.move next).sink.device = (s.sink.dispatchAll s.clock (s.outcome next).2).device ∧
        (s.move next).sink.calls = (s.sink.dispatchAll s.clock (s.outcome next).2).calls) ∨
      next = .ring ∧ ∃ waiting, s.sink.device.timer.waiting = some waiting ∧
        waiting.deadline ≤ s.clock ∧
        (s.move next).sink.device = { s.sink.device with timer := .idle } ∧
        (s.move next).sink.calls = s.sink.calls ++ [(s.clock, .route waiting.target)] := by
  cases next with
  | apply event =>
    have carried : (s.move (.apply event)).sink =
        (CommandSink.dispatchAll s.sink s.clock (s.outcome (.apply event)).2).1 := rfl
    rw [carried, Platform.commandSink_dispatchAll]
    exact Or.inl ⟨rfl, rfl⟩
  | teardown =>
    have carried : (s.move .teardown).sink =
        (CommandSink.dispatchAll s.sink s.clock (s.outcome .teardown).2).1 := rfl
    rw [carried, Platform.commandSink_dispatchAll]
    exact Or.inl ⟨rfl, rfl⟩
  | ring =>
    have turned : (s.move .ring).sink = CommandSink.wait s.sink s.clock 0 := rfl
    rw [turned]
    rcases s.sink.turn_cases s.clock with ⟨-, idle⟩ | ⟨waiting, waits, due, rung⟩
    · rw [idle]
      exact Or.inl ⟨rfl, rfl⟩
    · rw [rung]
      exact Or.inr ⟨rfl, waiting, waits, due, rfl, rfl⟩
  | _ => exact Or.inl ⟨rfl, rfl⟩

/-- When the timer gets its turn and the switch that it waits for is due, it rings. -/
theorem ring_of_due {s : Session Platform} {waiting : WaitingSwitch}
    (waits : s.sink.device.timer.waiting = some waiting) (due : waiting.deadline ≤ s.clock) :
    (s.move .ring).sink.device = { s.sink.device with timer := .idle } ∧
      (s.move .ring).sink.calls = s.sink.calls ++ [(s.clock, .route waiting.target)] := by
  have turned : (s.move .ring).sink = CommandSink.wait s.sink s.clock 0 := rfl
  rw [turned]
  rcases s.sink.turn_cases s.clock with ⟨early, -⟩ | ⟨other, same, -, rung⟩
  · exact absurd due (Nat.not_le_of_lt (early waiting waits))
  · obtain rfl : waiting = other := Option.some.inj (waits.symm.trans same)
    rw [rung]
    exact ⟨rfl, rfl⟩

end InCallProximity.Session
