import InCallProximity.Proofs.Ending
import InCallProximity.Proofs.Replay.Lines
import InCallProximity.Proofs.Session.Mirror

/-!
# What a replay calls

A replay is a run of a session that ends with the end of the call screen, whether something is
wrong with the script or not (`exists_run`). So what holds of all runs holds of it: at its end the
platform is off (`Session.Mirrors`), and nothing is called after that (`Session.run_of_tornDown`).
The calls that a replay tells of (`told`) are those that it makes (`calls_append_told`).

The main statement, `replay_of_script`, is about the program as a whole.
-/

namespace InCallProximity

/-! ## Calls are only added -/

theorem Platform.calls_prefix_dispatchAll (p : Platform) (now : Nat) (commands : List Command) :
    p.calls <+: (p.dispatchAll now commands).calls := by
  induction commands generalizing p with
  | nil => exact List.prefix_refl _
  | cons command rest ih => exact (List.prefix_append _ _).trans (ih (p.dispatch now command))

namespace Session

theorem calls_prefix_run (s : Session Platform) (moves : List Move) :
    s.sink.calls <+: (s.run moves).sink.calls := by
  refine @run_induction _ _ (fun (later : Session Platform) => s.sink.calls <+: later.sink.calls) _
    (List.prefix_refl _) ?_ moves
  intro later next grown
  refine grown.trans ?_
  rcases later.move_cases next with ⟨-, calls⟩ | ⟨-, waiting, -, -, -, calls⟩
  · rw [calls]
    exact Platform.calls_prefix_dispatchAll later.sink _ _
  · rw [calls]
    exact List.prefix_append _ _

theorem teardown_not_mem_reportMoves (s : Session Platform) : .teardown ∉ s.reportMoves := by
  simp [reportMoves]

theorem teardown_not_mem_waitMoves (s : Session Platform) (span : Nat) :
    .teardown ∉ s.waitMoves span := by
  unfold waitMoves
  split <;> simp [teardown_not_mem_reportMoves]

end Session

/-! ## The end of the call screen sets no route -/

/-- Commands that set no route lead to calls that set none. -/
theorem Command.ne_route_of_mem_calls {commands : List Command}
    (unset : ∀ target, .setRoute target ∉ commands) (now : Nat) :
    ∀ made ∈ Command.calls now commands, ∀ route, made.2 ≠ .route route := by
  intro made among route same
  obtain ⟨call, asked, rfl⟩ := List.mem_map.mp among
  obtain ⟨command, given, asks⟩ := List.mem_filterMap.mp asked
  cases command with
  | setRoute target => exact absurd given (unset target)
  | scheduleRouteSwitch target delay => cases asks
  | cancelScheduledRouteSwitch => cases asks
  | _ =>
    cases asks
    cases same

theorem Controller.setRoute_not_mem_teardown (c : Controller) (target : AudioRoute) :
    .setRoute target ∉ c.teardown.2 := by
  cases gone : c.tornDown with
  | true =>
    unfold teardown
    rw [if_pos gone]
    exact List.not_mem_nil
  | false =>
    rw [teardown_commands gone]
    unfold SpeakerSwitch.cancelCommands
    split <;> simp

theorem Session.teardown_of_tornDown {s : Session Platform} (gone : s.controller.tornDown = true) :
    s.move .teardown = s := by
  have silent : s.controller.teardown = (s.controller, []) := if_pos gone
  change (s.follow s.controller.teardown).1 = s
  rw [silent]
  rfl

theorem Session.Mirrors.teardown_calls {s : Session Platform} (mirrors : s.Mirrors) :
    ∃ ending, (s.move .teardown).sink.calls = s.sink.calls ++ ending ∧
      ∀ made ∈ ending, ∀ route, made.2 ≠ .route route := by
  refine ⟨Command.calls s.clock s.controller.teardown.2, ?_,
    Command.ne_route_of_mem_calls s.controller.setRoute_not_mem_teardown s.clock⟩
  rcases s.move_cases .teardown with ⟨-, calls⟩ | ⟨rings, -⟩
  · exact calls.trans
      (Platform.dispatchAll_calls (Platform.unrepeated_of_edge (mirrors.edged .teardown)) _)
  · cases rings

namespace Replay

/-! ## A replay is a run -/

/-- What lets a wait pass and applies an event takes steps as a replay does. -/
theorem eq_take {next : Session Platform → Step → Session Platform}
    (waits : ∀ s span, next s (.wait span) = s.wait span.toNat)
    (applies : ∀ s event, next s (.event event) = (s.apply event).1) : next = take := by
  funext s step
  cases step with
  | wait span => exact waits s span
  | event event => exact applies s event

theorem exists_run_take (s : Session Platform) (step : Step) :
    ∃ moves, .teardown ∉ moves ∧ s.run moves = take s step := by
  cases step with
  | wait span =>
    exact ⟨s.waitMoves span.toNat, s.teardown_not_mem_waitMoves _, s.run_waitMoves _⟩
  | event event => exact ⟨[.apply event], by simp, rfl⟩

theorem exists_run (s : Session Platform) (steps : List Step) :
    ∃ moves, .teardown ∉ moves ∧ s.run moves = steps.foldl take s := by
  induction steps generalizing s with
  | nil => exact ⟨[], List.not_mem_nil, rfl⟩
  | cons step rest ih =>
    obtain ⟨first, lasts, taken⟩ := exists_run_take s step
    obtain ⟨more, lastsToo, takenToo⟩ := ih (take s step)
    refine ⟨first ++ more, by simp [lasts, lastsToo], ?_⟩
    rw [Session.run_append, taken, takenToo, List.foldl_cons]

/-! ## Calls that are told of are made -/

/-- The calls among entries, with their times. -/
def told (entries : List (Nat × Entry)) : List (Nat × PlatformCall) :=
  entries.filterMap fun (time, entry) =>
    match entry with
    | .call call => some (time, call)
    | .step _ => none

theorem append_told_callsSince {before after : Session Platform}
    (grown : before.sink.calls <+: after.sink.calls) :
    before.sink.calls ++ told (callsSince before after) = after.sink.calls := by
  have same : told (callsSince before after) =
      after.sink.calls.drop before.sink.calls.length := by
    unfold told callsSince
    rw [List.filterMap_map]
    exact List.filterMap_some
  rw [same]
  exact List.prefix_iff_eq_append.mp grown

theorem calls_append_told (s : Session Platform) (lines : List (Nat × List Char)) :
    s.sink.calls ++ told (follow s lines).entries = (follow s lines).session.sink.calls := by
  have concluded : ∀ (s : Session Platform) stopped,
      s.sink.calls ++ told (conclude s stopped).entries = (conclude s stopped).session.sink.calls :=
    fun s _ => append_told_callsSince (s.calls_prefix_run [.teardown])
  induction lines generalizing s with
  | nil => exact concluded s none
  | cons head rest ih =>
    obtain ⟨number, line⟩ := head
    rcases ofLine_cases line with ⟨step, held, -⟩ | ⟨problem, refused, -⟩
    · obtain ⟨moves, -, taken⟩ := exists_run_take s step
      have grown : s.sink.calls <+: (take s step).sink.calls := taken ▸ s.calls_prefix_run moves
      have split : told ((s.clock, .step step) :: callsSince s (take s step) ++
          (follow (take s step) rest).entries) =
            told (callsSince s (take s step)) ++ told (follow (take s step) rest).entries :=
        List.filterMap_append
      rw [follow_of_ok held]
      dsimp only
      rw [split, ← List.append_assoc, append_told_callsSince grown, ih]
    · rw [follow_of_error refused]
      exact concluded s _

/-! ## The program -/

theorem text_toUTF8 (text : String) : FileContent.text (.ok text.toUTF8) = .ok text := by
  have read : String.fromUTF8? text.toUTF8 = some text := dif_pos text.isValidUTF8
  unfold FileContent.text
  simp only [read]

/-- Once the call screen has ended, nothing stands and nothing is pending. -/
theorem teardown_leaves {settings : Settings} {moves : List Session.Move} {s : Session Platform}
    (reached : s = ((start settings).run moves).move .teardown) :
    s.controller.tornDown = true ∧ s.sink.device.timer = .idle ∧ s.sink.device.held = false ∧
      ∀ κ, level (s.sink.switches κ) = false := by
  have gone : s.controller.tornDown = true := by
    rw [reached, Session.move_controller, Session.outcome_tornDown]
    exact Bool.or_true _
  have agrees : s.Agrees := by
    rw [reached, ← Session.run_concat]
    exact Session.run_agrees _ _ _
  have mirrors : s.Mirrors := reached ▸ (Session.run_mirrors _ _ moves).move .teardown
  have off : ∀ κ, level (s.sink.switches κ) = false :=
    fun κ => (mirrors.run_of_tornDown gone [] κ).1
  refine ⟨gone, agrees.known (agrees.ended gone), ?_, off⟩
  rw [mirrors.held]
  exact (mirrors.asked .blanking).symm.trans (off .blanking)

/-- **Every replay ends in order.** Whatever the script, it reads as some steps, up to the first
line that is wrong, if there is one:

* the program succeeds if no line is wrong; otherwise it fails, and names the line and whether it
  is no JSON or no event;
* the calls that it tells of are those that are made; they are the calls of a session that lets the
  waits pass and applies the events, in order and with the way to the speaker open, and then ends
  the call screen, and if a line is wrong, the calls of the script before that line;
* ending the call screen once more changes nothing;
* in the end the trigger is released and the sensors are off; the end of the call screen sets no
  route, and whatever happens after it makes no call. -/
theorem replay_of_script (settings : Settings) (path script : String) :
    let result := program settings path (.ok script.toUTF8)
    let outcome := run (preferences settings) script.toList
    let session := outcome.session
    result = outcome.result (preferences settings) ∧
      ∃ steps stopped, Reads (Text.lines script.toList) steps stopped ∧
        let taken := steps.foldl
          (fun (s : Session Platform) step =>
            match step with
            | .wait span => s.wait span.toNat
            | .event event => (s.apply event).1)
          (.start ⟨{ settings with autoSpeaker := true }, none⟩ (.idle false))
        (result.failure = stopped.map .badLine ∧
          result.failure.map Failure.message = stopped.map (fun bad =>
            "line " ++ toString bad.number ++ ": " ++
              match bad.problem with
              | .notJson _ => "not JSON"
              | .notEvent _ => "not an event") ∧
          (result.status = 0 ↔ stopped = none)) ∧
        (told outcome.entries = session.sink.calls ∧
          session = taken.teardown.1 ∧
          ∀ bad, stopped = some bad →
            let cut := run (preferences settings) (cutBefore script.toList bad.number)
            cut.stopped = none ∧ cut.session = session ∧ told cut.entries = told outcome.entries) ∧
        session.teardown.1 = session ∧
        session.sink.device.held = false ∧
        (∀ κ, (session.sink.switches κ).getLast? ≠ some true) ∧
        (∃ ending, session.sink.calls = taken.sink.calls ++ ending ∧
          ∀ made ∈ ending, ∀ route, made.2 ≠ .route route) ∧
        ∀ moves, (session.run moves).sink.calls = session.sink.calls := by
  intro result outcome session
  have told_eq : ∀ text : List Char, told (run (preferences settings) text).entries =
      (run (preferences settings) text).session.sink.calls :=
    fun text => calls_append_told (start (preferences settings)) (stepLines text)
  have ran : result = outcome.result (preferences settings) := by
    change program settings path (.ok script.toUTF8) = _
    unfold program
    rw [text_toUTF8]
  obtain ⟨steps, stopped, reads⟩ := exists_reads (Text.lines script.toList)
  obtain ⟨played, halted⟩ := @run_of_reads (preferences settings) _ _ _ reads
  obtain ⟨moves, -, taken⟩ := exists_run (start (preferences settings)) steps
  have reached : session = ((start (preferences settings)).run moves).move .teardown := by
    rw [taken]
    exact played
  obtain ⟨gone, idle, released, off⟩ := teardown_leaves reached
  have failure : result.failure = stopped.map .badLine := by
    rw [ran]
    exact congrArg (Option.map Failure.badLine) halted
  refine ⟨ran, steps, stopped, reads, ?_⟩
  intro directly
  have same : directly = steps.foldl take (start (preferences settings)) :=
    congrArg (fun next => steps.foldl next _) (eq_take (fun _ _ => rfl) fun _ _ => rfl)
  rw [same]
  refine ⟨⟨failure, ?_, ?_⟩, ⟨told_eq _, played, ?_⟩, Session.teardown_of_tornDown gone, released,
    ?_, ?_, fun moves => (Session.run_of_tornDown gone idle moves).2.2⟩
  · rw [failure, Option.map_map]
    rcases stopped with _ | ⟨number, _ | _⟩ <;> rfl
  · unfold Result.status
    rw [failure]
    cases stopped <;> simp
  · rintro bad rfl
    obtain ⟨playedToo, haltedToo⟩ := @run_of_reads (preferences settings) _ _ _ reads.cutBefore
    have same := playedToo.trans played.symm
    refine ⟨haltedToo, same, ?_⟩
    rw [told_eq, told_eq, same]
  · intro κ
    rw [ne_eq, getLast?_eq_some_true_iff, off]
    exact Bool.false_ne_true
  · rw [← taken, reached]
    exact (Session.run_mirrors _ _ moves).teardown_calls

end Replay

end InCallProximity
