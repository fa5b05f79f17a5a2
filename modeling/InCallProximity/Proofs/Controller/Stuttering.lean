import InCallProximity.Proofs.Controller.Independence
import InCallProximity.Proofs.Controller.Signals
import Mathlib.Logic.Relation

/-!
# Events that change nothing

A controller that is in step with its snapshot asks for nothing as long as the snapshot stays. So an
event that leaves the snapshot as it was leaves the whole controller as it was and leads to no
command (`InStep.handle_of_unchanged`). Samples of the proximity sensor are left out of this: a
sample is a reading even if it is the same as the last one.

Some events are known beforehand to leave the snapshot as it is: one that repeats the event right
before it, an orientation that is not sensed, and a call screen that disappears in the dark
(`Stutters`). They can be left out of a run, as many of them as one likes.
-/

namespace InCallProximity

namespace Controller

variable {c : Controller}

/-! ## One event -/

/-- The snapshot, what was asked of the capabilities, and the delayed switch that is owed make up a
controller, but for the end of the call screen. -/
theorem eq_of_asked {d : Controller} (snapshot : d.snapshot = c.snapshot)
    (asked : ∀ κ : Capability, κ.asked d = κ.asked c) (speaker : d.speaker = c.speaker)
    (tornDown : d.tornDown = c.tornDown) : d = c := by
  have armed := asked .blanking
  have callActive := asked .proximity
  have orientation := asked .orientation
  rcases c with ⟨_, ⟨_⟩, _, ⟨_, _⟩, _⟩
  rcases d with ⟨_, ⟨_⟩, _, ⟨_, _⟩, _⟩
  simp_all [Capability.asked]

/-- No dialled call connects without a change of the snapshot. -/
theorem InStep.reading?_of_unchanged (inStep : c.InStep) {event : Event}
    (other : event.isSample = false) {settings : Settings} {now : Nat}
    (unchanged : (c.handle event settings now).1.snapshot = c.snapshot) :
    c.reading? event = none := by
  unfold reading?
  split
  · rfl
  · next alive =>
    rw [inStep.handle_snapshot, if_neg alive] at unchanged
    cases event with
    | callPhaseChanged phase =>
      obtain ⟨orientation, taken⟩ := c.snapshot.exists_take_eq_set (.callPhaseChanged phase)
      have stays : phase = c.snapshot.phase := by rw [← unchanged, taken]; rfl
      have still : c.connects phase = false := by
        unfold connects
        rw [← stays]
        cases phase <;> rfl
      rw [reading?_callPhaseChanged, still]
      rfl
    | proximityRawSample distance maxRange => cases other
    | _ => rfl

/-- An event that leaves the snapshot as it was changes nothing, unless it is a sample. -/
theorem InStep.handle_of_unchanged (inStep : c.InStep) {event : Event}
    (other : event.isSample = false) {settings : Settings} {now : Nat}
    (unchanged : (c.handle event settings now).1.snapshot = c.snapshot) :
    c.handle event settings now = (c, []) := by
  have aside := handle_of_no_reading (inStep.reading?_of_unchanged other unchanged) settings now
  have tornDown := c.handle_tornDown event settings now
  have asked : ∀ κ : Capability, κ.asked (c.handle event settings now).1 = κ.asked c := by
    intro κ
    rw [handle_inStep inStep event settings now κ, inStep κ, tornDown, unchanged]
  have silent : ∀ κ : Capability, κ.switches (c.handle event settings now).2 = [] := by
    intro κ
    rw [c.handle_edged event settings now κ, asked, edge_self]
  exact Prod.ext (eq_of_asked unchanged asked aside.speaker tornDown)
    (Command.eq_nil_of_silent aside.routes silent)

/-! ## Runs -/

theorem run_inStep (inStep : c.InStep) (inputs : List Input) : (c.run inputs).1.InStep := by
  induction inputs generalizing c with
  | nil => exact inStep
  | cons next rest ih =>
    apply ih
    cases next with
    | arrival arrival => exact handle_inStep inStep _ _ _
    | teardown => exact teardown_inStep inStep

/-- An event after a run that is known beforehand to leave the snapshot as it is. -/
inductive Stutters : List Input → Event → Prop
  /-- the event right before it was the same -/
  | repeated (before : List Input) (last : Arrival) :
    last.event.isSample = false → Stutters (before ++ [.arrival last]) last.event
  /-- no call is connected, or the display is off -/
  | unsensed (before : List Input) (orientation : Orientation) :
    (initial.run before).1.snapshot.phase ≠ .activeOffHook ∨
      (initial.run before).1.snapshot.displayOn = false →
    Stutters before (.orientationChanged orientation)
  /-- the display is off -/
  | dark (before : List Input) :
    (initial.run before).1.snapshot.displayOn = false →
    Stutters before (.uiVisibilityChanged false)

/-- An event that stutters is left out of a run. -/
inductive Drops : List Input → List Input → Prop
  | drop (before : List Input) (arrival : Arrival) (after : List Input) :
    Stutters before arrival.event → Drops (before ++ .arrival arrival :: after) (before ++ after)

theorem Stutters.isSample {before : List Input} {event : Event} (stutters : Stutters before event) :
    event.isSample = false := by
  cases stutters with
  | repeated before last other => exact other
  | unsensed before orientation _ => rfl
  | dark before _ => rfl

theorem Stutters.handle_snapshot {before : List Input} {event : Event}
    (stutters : Stutters before event) (settings : Settings) (now : Nat) :
    ((initial.run before).1.handle event settings now).1.snapshot =
      (initial.run before).1.snapshot := by
  have inStep := run_inStep initial_inStep before
  rw [inStep.handle_snapshot]
  split
  · rfl
  · next alive =>
    cases stutters with
    | repeated earlier last other =>
      have earlierInStep := run_inStep initial_inStep earlier
      have ran : (initial.run (earlier ++ [.arrival last])).1 =
          ((initial.run earlier).1.handle last.event last.settings last.time).1 := by
        rw [run_append]
        rfl
      rw [ran, handle_tornDown] at alive
      rw [ran, earlierInStep.handle_snapshot, if_neg alive, Snapshot.take_take]
    | unsensed _ orientation insensible =>
      have unwanted : Capability.orientation.wanted (initial.run before).1.snapshot = false := by
        refine Bool.and_eq_false_iff.mpr (insensible.imp_left fun unconnected => ?_)
        exact decide_eq_false unconnected
      rw [Snapshot.take_orientation, unwanted]
      rfl
    | dark _ unlit =>
      have other : (Event.uiVisibilityChanged false).kind ≠ .orientationChanged := nofun
      have hidden : (initial.run before).1.snapshot.set (.ui .backgrounded) =
          (initial.run before).1.snapshot := if_neg (Bool.eq_false_iff.mp unlit)
      rw [Snapshot.take_of_ne_orientation _ other]
      exact hidden

theorem Drops.run_eq {more fewer : List Input} (drops : Drops more fewer) :
    initial.run more = initial.run fewer := by
  obtain ⟨before, arrival, after, stutters⟩ := drops
  have inStep := run_inStep initial_inStep before
  have idle : (initial.run before).1.arrive arrival = ((initial.run before).1, []) :=
    inStep.handle_of_unchanged stutters.isSample (stutters.handle_snapshot _ _)
  have dropped : (initial.run before).1.run (.arrival arrival :: after) =
      (initial.run before).1.run after := by
    change ((initial.run before).1.arrive arrival).andThen (run · after) = _
    rw [idle]
    rfl
  rw [run_append, run_append]
  exact congrArg (fun rest : Outcome => (rest.1, (initial.run before).2 ++ rest.2)) dropped

/-- **Stuttering events are invisible.** Wherever a run has led to, an event other than a sample
that leaves the snapshot as it was leads to no command and leaves the controller as it was, whatever
the settings and the time. So all events that stutter can be left out of a run, whatever comes
after them: its commands stay the same, and so does the controller at its end. -/
theorem stuttering_is_invisible :
    (∀ (before : List Input) (arrival : Arrival), arrival.event.isSample = false →
      let c := (initial.run before).1
      (c.arrive arrival).1.snapshot = c.snapshot → c.arrive arrival = (c, [])) ∧
    ∀ more fewer : List Input, Relation.ReflTransGen Drops more fewer →
      initial.run more = initial.run fewer := by
  refine ⟨?_, ?_⟩
  · intro before arrival other c unchanged
    exact (run_inStep initial_inStep before).handle_of_unchanged other unchanged
  · intro more fewer drops
    induction drops with
    | refl => rfl
    | tail _ drop ih => exact ih.trans drop.run_eq

/-- While the display is off, an orientation and a call screen that disappears can be left out, and
the display that goes dark once more can be as well. -/
theorem dark_events_dropped :
    let connect : Input := .arrival ⟨.callPhaseChanged .activeOffHook, ⟨true, false, 3000⟩, 0⟩
    let dark : Input := .arrival ⟨.displayStateChanged false, ⟨true, false, 3000⟩, 1⟩
    let again : Arrival := ⟨.displayStateChanged false, ⟨false, false, 10⟩, 2⟩
    let flat : Arrival := ⟨.orientationChanged .horizontal, ⟨true, false, 3000⟩, 3⟩
    let hidden : Arrival := ⟨.uiVisibilityChanged false, ⟨true, false, 3000⟩, 4⟩
    let dim := (initial.run [connect, dark]).1
    dim.arrive again = (dim, []) ∧
      initial.run [connect, dark, .arrival again, .arrival flat, .arrival hidden, .teardown] =
        initial.run [connect, dark, .teardown] := by
  intro connect dark again flat hidden dim
  have unrepeated : Drops
      [connect, dark, .arrival again, .arrival flat, .arrival hidden, .teardown]
      [connect, dark, .arrival flat, .arrival hidden, .teardown] :=
    .drop [connect, dark] again _ (.repeated [connect] _ rfl)
  have unsensed : Drops [connect, dark, .arrival flat, .arrival hidden, .teardown]
      [connect, dark, .arrival hidden, .teardown] :=
    .drop [connect, dark] flat _ (.unsensed _ _ (Or.inr (by decide)))
  have shown : Drops [connect, dark, .arrival hidden, .teardown] [connect, dark, .teardown] :=
    .drop [connect, dark] hidden _ (.dark _ (by decide))
  have drops := ((Relation.ReflTransGen.single unrepeated).tail unsensed).tail shown
  exact ⟨stuttering_is_invisible.1 [connect, dark] again rfl (by decide),
    stuttering_is_invisible.2 _ _ drops⟩

end Controller

end InCallProximity
