import InCallProximity.Proofs.Controller.Levels

/-!
# Runs of a controller

What reaches a controller is an event, under the settings of that moment and at a time, or the end
of the call screen (`Input`). A run takes inputs one after another and collects the commands in
order. Settings and times are as they come: they may differ from event to event, and a later event
may come with an earlier time.

Until the call screen ends, a run is a list of arrivals (`takeAll`). It keeps the controller alive
and in step with its snapshot (`Live.takeAll`). Once the call screen has ended, nothing that follows
changes the controller or leads to a command (`run_of_tornDown`).
-/

namespace InCallProximity

/-- An event as it reaches a controller: under the settings of that moment, at a time. -/
structure Arrival where
  event : Event
  settings : Settings
  /-- milliseconds -/
  time : Nat
deriving DecidableEq

namespace Controller

/-- What can reach a controller. A call screen that is dropped is torn down. -/
inductive Input where
  | arrival (arrival : Arrival)
  | teardown
deriving DecidableEq

/-- Takes up an event as it arrives. -/
def arrive (c : Controller) (arrival : Arrival) : Outcome :=
  c.handle arrival.event arrival.settings arrival.time

/-- Takes an input: an event, or the end of the call screen. -/
def respond (c : Controller) : Input → Outcome
  | .arrival arrival => c.arrive arrival
  | .teardown => c.teardown

/-- Takes inputs in order. -/
def run (c : Controller) : List Input → Outcome
  | [] => (c, [])
  | next :: rest => (c.respond next).andThen (run · rest)

/-- Takes up events in order, with the call screen there to stay. -/
def takeAll (c : Controller) (arrivals : List Arrival) : Outcome := c.run (arrivals.map .arrival)

theorem Outcome.andThen_assoc (outcome : Outcome) (first second : Controller → Outcome) :
    (outcome.andThen first).andThen second = outcome.andThen fun c => (first c).andThen second :=
  Prod.ext rfl (List.append_assoc _ _ _)

theorem run_append (c : Controller) (before after : List Input) :
    c.run (before ++ after) = (c.run before).andThen (run · after) := by
  induction before generalizing c with
  | nil => rfl
  | cons next rest ih =>
    calc c.run (next :: rest ++ after)
        = (c.respond next).andThen (run · (rest ++ after)) := rfl
      _ = (c.respond next).andThen fun c => (c.run rest).andThen (run · after) := by
          rw [funext ih]
      _ = (c.run (next :: rest)).andThen (run · after) := (Outcome.andThen_assoc _ _ _).symm

theorem takeAll_cons (c : Controller) (first : Arrival) (rest : List Arrival) :
    c.takeAll (first :: rest) = (c.arrive first).andThen (takeAll · rest) := rfl

theorem takeAll_append (c : Controller) (before after : List Arrival) :
    c.takeAll (before ++ after) = (c.takeAll before).andThen (takeAll · after) := by
  unfold takeAll
  rw [List.map_append, run_append]

theorem takeAll_concat (c : Controller) (before : List Arrival) (last : Arrival) :
    c.takeAll (before ++ [last]) = (c.takeAll before).andThen (arrive · last) := by
  have single : ∀ c : Controller, c.takeAll [last] = c.arrive last :=
    fun c => Prod.ext rfl (List.append_nil _)
  rw [takeAll_append, funext single]

/-- What every arrival keeps holds after every run that the call screen outlasts. -/
theorem takeAll_induction {motive : Outcome → Prop} {c : Controller} (starts : motive (c, []))
    (keeps : ∀ outcome arrival, motive outcome → motive (outcome.andThen (arrive · arrival)))
    (arrivals : List Arrival) : motive (c.takeAll arrivals) := by
  induction arrivals using List.reverseRecOn with
  | nil => exact starts
  | append_singleton before last ih =>
    rw [takeAll_concat]
    exact keeps _ last ih

/-- A controller as it is in every run that the call screen outlasts. -/
structure Live (c : Controller) : Prop where
  inStep : c.InStep
  alive : c.tornDown = false

theorem initial_live : initial.Live := ⟨initial_inStep, rfl⟩

theorem Live.arrive {c : Controller} (live : c.Live) (arrival : Arrival) :
    (c.arrive arrival).1.Live where
  inStep := handle_inStep live.inStep _ _ _
  alive := (c.handle_tornDown _ _ _).trans live.alive

theorem Live.takeAll {c : Controller} (live : c.Live) (arrivals : List Arrival) :
    (c.takeAll arrivals).1.Live :=
  takeAll_induction (motive := fun outcome => outcome.1.Live) live
    (fun _ arrival live => live.arrive arrival) arrivals

theorem Live.arrive_eq {c : Controller} (live : c.Live) (arrival : Arrival) :
    c.arrive arrival = c.take arrival.settings arrival.time arrival.event :=
  if_neg (Bool.eq_false_iff.mp live.alive)

/-- A live controller asked for what its snapshot wants. -/
theorem Live.asked_eq {c : Controller} (live : c.Live) (κ : Capability) :
    κ.asked c = κ.wanted c.snapshot := by
  rw [live.inStep κ, live.alive, Bool.not_false, Bool.true_and]

/-! ## After the end of the call screen -/

theorem respond_of_tornDown {c : Controller} (gone : c.tornDown = true) (input : Input) :
    c.respond input = (c, []) := by
  cases input with
  | arrival arrival => exact if_pos gone
  | teardown => exact if_pos gone

/-- Once the call screen has ended, nothing happens any more. -/
theorem run_of_tornDown {c : Controller} (gone : c.tornDown = true) (inputs : List Input) :
    c.run inputs = (c, []) := by
  induction inputs with
  | nil => rfl
  | cons next rest ih =>
    change (c.respond next).andThen (run · rest) = (c, [])
    rw [respond_of_tornDown gone]
    exact ih

end Controller

end InCallProximity
