import InCallProximity.Proofs.Controller.Signals
import InCallProximity.Proofs.Controller.Standing
import Mathlib.Logic.Relation

/-!
# Independent events commute

Reports reach a controller from several places at once, in no order that could be relied on. Where
the order of two events does not matter, both of them lead to the same snapshot in either order
(`Snapshot.take_comm`): each sets its own signal, and neither tells whether the other one brings a
turn. The order can matter for an orientation next to what tells whether it is sensed and how long
it is worth something, and for the call screen next to the display (`EventKind.interferes`,
`Snapshot.exists_take_ne_of_interferes`).

So runs whose events can be turned into each other by swapping neighbours that are independent
(`Event.Swap`) end in the same snapshot, and with that each capability ends at the same level,
whatever the commands on the way.
-/

namespace InCallProximity

/-- An event of the second kind can change what an event of the first kind does. -/
def EventKind.interferes : EventKind → EventKind → Bool
  | .orientationChanged, .callPhaseChanged => true
  | .orientationChanged, .displayStateChanged => true
  | .orientationChanged, .videoCallFlagsChanged => true
  | .uiVisibilityChanged, .displayStateChanged => true
  | _, _ => false

/-- Two events of different kinds that do not interfere with each other. -/
structure Event.Independent (first second : Event) : Prop where
  differ : first.kind ≠ second.kind
  apart : first.kind.interferes second.kind = false
  apartToo : second.kind.interferes first.kind = false

theorem Event.Independent.symm {first second : Event} (independent : first.Independent second) :
    second.Independent first :=
  ⟨independent.differ.symm, independent.apartToo, independent.apart⟩

/-- Two neighbours that are independent are swapped. -/
inductive Event.Swap : List Event → List Event → Prop
  | swap (before : List Event) (first second : Event) (after : List Event) :
    first.Independent second →
    Event.Swap (before ++ first :: second :: after) (before ++ second :: first :: after)

namespace Snapshot

variable (s : Snapshot)

/-- The signals of independent events can be set in either order. -/
theorem set_signal_comm {first second : Event} (independent : first.Independent second) :
    (s.set first.signal).set second.signal = (s.set second.signal).set first.signal := by
  obtain ⟨differ, apart, apartToo⟩ := independent
  rw [← first.signal_kind, ← second.signal_kind] at differ apart apartToo
  apply s.set_comm differ
  · rintro ⟨ui, display⟩
    rw [ui, display] at apart
    cases apart
  · rintro ⟨ui, display⟩
    rw [ui, display] at apartToo
    cases apartToo

/-- Two independent events that report no orientation: both signals are set, and the orientation is
forgotten if either of them brings a turn. -/
theorem take_comm_of_ne_orientation {first second : Event}
    (independent : first.Independent second) (unoriented : first.kind ≠ .orientationChanged)
    (unorientedToo : second.kind ≠ .orientationChanged) :
    (s.take first).take second = (s.take second).take first := by
  have both : ∀ {first second : Event}, first.Independent second →
      first.kind ≠ .orientationChanged → second.kind ≠ .orientationChanged →
      (s.take first).take second = ((s.set first.signal).set second.signal).forget
        (s.turnedBy first.signal || s.turnedBy second.signal) := by
    intro first second independent unoriented unorientedToo
    have differ : first.signal.kind ≠ second.signal.kind := by
      rw [first.signal_kind, second.signal_kind]
      exact independent.differ
    rw [take_of_ne_orientation _ unoriented, take_of_ne_orientation _ unorientedToo,
      turnedBy_forget, turnedBy_set _ differ, forget_set _ _ (second.signal_kind ▸ unorientedToo),
      forget_forget]
  rw [both independent unoriented unorientedToo, both independent.symm unorientedToo unoriented,
    set_signal_comm _ independent, Bool.or_comm]

/-- An event that is independent of an orientation brings no turn, and does not tell whether the
orientation is sensed. -/
theorem take_comm_orientation (orientation : Orientation) {event : Event}
    (independent : (Event.orientationChanged orientation).Independent event) :
    (s.take (.orientationChanged orientation)).take event =
      (s.take event).take (.orientationChanged orientation) := by
  have other : event.kind ≠ .orientationChanged := independent.differ.symm
  have bystands : ∀ s : Snapshot, s.turnedBy event.signal = false ∧
      Capability.orientation.wanted (s.set event.signal) = Capability.orientation.wanted s ∧
      (s.set event.signal).orientation = s.orientation := by
    intro s
    cases event with
    | callPhaseChanged phase => cases independent.apart
    | displayStateChanged isOn => cases independent.apart
    | videoCallFlagsChanged attempting isVideo => cases independent.apart
    | orientationChanged reported => exact absurd rfl other
    | uiVisibilityChanged showing =>
      change _ ∧ Capability.orientation.wanted (s.set (.ui _)) = _ ∧ (s.set (.ui _)).orientation = _
      rw [set_ui]
      exact ⟨rfl, rfl, rfl⟩
    | _ => exact ⟨rfl, rfl, rfl⟩
  have steady : ∀ s : Snapshot, s.take event = s.set event.signal := by
    intro s
    rw [take_of_ne_orientation _ other, (bystands s).1]
    rfl
  obtain ⟨-, sensed, kept⟩ := bystands s
  rw [take_orientation, take_orientation, steady, steady, sensed, kept]
  have apart : ∀ known, (Event.orientationChanged known).Independent event :=
    fun known => ⟨independent.differ, independent.apart, independent.apartToo⟩
  exact s.set_signal_comm (apart _)

/-- Two independent events lead to the same snapshot in either order. -/
theorem take_comm {first second : Event} (independent : first.Independent second) :
    (s.take first).take second = (s.take second).take first := by
  cases first with
  | orientationChanged orientation => exact s.take_comm_orientation orientation independent
  | _ =>
    cases second with
    | orientationChanged orientation =>
      symm
      exact s.take_comm_orientation orientation independent.symm
    | _ => exact s.take_comm_of_ne_orientation independent nofun nofun

/-- The order of two events can matter if their kinds interfere. -/
theorem exists_take_ne_of_interferes {first second : EventKind}
    (interferes : first.interferes second = true) :
    ∃ (s : Snapshot) (one other : Event), one.kind = first ∧ other.kind = second ∧
      (s.take one).take other ≠ (s.take other).take one := by
  let connected : Snapshot := { Snapshot.initial with phase := .activeOffHook }
  let flat : Event := .orientationChanged .horizontal
  cases first with
  | orientationChanged =>
    cases second with
    | callPhaseChanged =>
      exact ⟨.initial, flat, .callPhaseChanged .activeOffHook, rfl, rfl, by decide⟩
    | displayStateChanged =>
      exact ⟨connected, flat, .displayStateChanged false, rfl, rfl, by decide⟩
    | videoCallFlagsChanged =>
      exact ⟨connected, flat, .videoCallFlagsChanged false true, rfl, rfl, by decide⟩
    | _ => cases interferes
  | uiVisibilityChanged =>
    cases second with
    | displayStateChanged =>
      exact ⟨.initial, .uiVisibilityChanged false, .displayStateChanged false, rfl, rfl, by decide⟩
    | _ => cases interferes
  | _ => cases second <;> cases interferes

theorem foldl_take_eq_of_swap {left right : List Event} (swap : Event.Swap left right) :
    left.foldl take s = right.foldl take s := by
  obtain ⟨before, first, second, after, independent⟩ := swap
  rw [List.foldl_append, List.foldl_append]
  exact congrArg (after.foldl take) (take_comm _ independent)

theorem foldl_take_eq_of_swaps {left right : List Event}
    (swaps : Relation.ReflTransGen Event.Swap left right) :
    left.foldl take s = right.foldl take s := by
  induction swaps with
  | refl => rfl
  | tail _ swap ih => exact ih.trans (s.foldl_take_eq_of_swap swap)

end Snapshot

namespace Controller

/-- **Independent events commute.** If the events of two runs can be turned into each other by
swapping neighbours that are independent, the runs end in the same snapshot, with the same asked of
each capability, and their commands leave each capability at the same level, whatever the settings
and the times in each of them. -/
theorem independent_events_commute (left right : List Arrival)
    (swaps : Relation.ReflTransGen Event.Swap (left.map Arrival.event) (right.map Arrival.event)) :
    let one := initial.takeAll left
    let other := initial.takeAll right
    one.1.snapshot = other.1.snapshot ∧
      ∀ κ : Capability, κ.asked one.1 = κ.asked other.1 ∧
        level (κ.switches one.2) = level (κ.switches other.2) := by
  intro one other
  have snapshot : one.1.snapshot = other.1.snapshot := by
    rw [takeAll_snapshot, takeAll_snapshot]
    exact Snapshot.initial.foldl_take_eq_of_swaps swaps
  refine ⟨snapshot, fun κ => ?_⟩
  have asked : κ.asked one.1 = κ.asked other.1 := by
    rw [(initial_live.takeAll left).asked_eq, (initial_live.takeAll right).asked_eq, snapshot]
  refine ⟨asked, ?_⟩
  rw [(takeAll_told left).asked, (takeAll_told right).asked, asked]

/-- A call that connects and goes to the speaker never arms the trigger if the speaker is told of
first; the trigger ends up released in either order. -/
theorem speaker_before_or_after :
    let call : Arrival := ⟨.callPhaseChanged .activeOffHook, ⟨true, false, 3000⟩, 0⟩
    let speaker : Arrival := ⟨.audioRouteChanged .speaker, ⟨false, false, 10⟩, 1⟩
    let flat : Arrival := ⟨.orientationChanged .horizontal, ⟨true, false, 3000⟩, 2⟩
    let hidden : Arrival := ⟨.uiVisibilityChanged false, ⟨false, true, 0⟩, 1⟩
    let one := initial.takeAll [call, speaker, flat, hidden]
    let other := initial.takeAll [speaker, call, hidden, flat]
    one.1.snapshot = other.1.snapshot ∧
      (∀ κ : Capability, level (κ.switches one.2) = level (κ.switches other.2)) ∧
      one.2 ≠ other.2 := by
  intro call speaker flat hidden one other
  have connected : Event.Swap [call.event, speaker.event, flat.event, hidden.event]
      [speaker.event, call.event, flat.event, hidden.event] :=
    .swap [] call.event speaker.event _ ⟨nofun, rfl, rfl⟩
  have laid : Event.Swap [speaker.event, call.event, flat.event, hidden.event]
      [speaker.event, call.event, hidden.event, flat.event] :=
    .swap [speaker.event, call.event] flat.event hidden.event [] ⟨nofun, rfl, rfl⟩
  obtain ⟨snapshot, levels⟩ := independent_events_commute [call, speaker, flat, hidden]
    [speaker, call, hidden, flat] ((Relation.ReflTransGen.single connected).tail laid)
  exact ⟨snapshot, fun κ => (levels κ).2, by decide⟩

end Controller

end InCallProximity
