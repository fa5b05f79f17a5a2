import InCallProximity.Proofs.Controller.Runs

/-!
# Sides of a controller

A side of a controller is a part of what it keeps, together with some of its commands (`Side`). A
step is the side's own if the rest has no part in it (`Side.Own`), and it is silent to the side if
it changes nothing that the side keeps and gives none of its commands (`Side.Silent`). Either way
the step is alike to the side from any two controllers of which it keeps the same (`Side.Alike`).

If a side is blind to some arrivals, and alike to those in which it sees the same, then it comes out
of two runs the same if it sees the same in them, in the same order, whatever else there is in
either of them (`Unwinds.takeAll`).
-/

namespace InCallProximity.Controller

/-- A part of a controller. -/
structure Side where
  /-- the controller, with all forgotten that the side does not keep -/
  keep : Controller → Controller
  /-- the command is one of the side's -/
  owns : Command → Bool

namespace Side

/-- What an outcome is to a side. -/
def of (side : Side) (outcome : Outcome) : Outcome :=
  (side.keep outcome.1, outcome.2.filter side.owns)

/-- A step is the own step of a side: the side sees of it just what it does to what the side
keeps. -/
def Own (side : Side) (step : Controller → Outcome) : Prop :=
  ∀ c : Controller, side.of (step c) = step (side.keep c)

/-- A step does nothing that a side sees. -/
def Silent (side : Side) (step : Controller → Outcome) : Prop :=
  ∀ c : Controller, side.of (step c) = (side.keep c, [])

/-- Two steps look alike to a side, from controllers that look alike to it. -/
def Alike (side : Side) (first second : Controller → Outcome) : Prop :=
  ∀ c d : Controller, side.keep c = side.keep d → side.of (first c) = side.of (second d)

variable {side : Side}

theorem of_andThen (side : Side) (outcome : Outcome) (step : Controller → Outcome) :
    side.of (outcome.andThen step) =
      ((side.of (step outcome.1)).1, (side.of outcome).2 ++ (side.of (step outcome.1)).2) :=
  Prod.ext rfl (List.filter_append ..)

theorem Own.alike {step : Controller → Outcome} (own : side.Own step) : side.Alike step step := by
  intro c d same
  rw [own, own, same]

theorem Silent.alike {first second : Controller → Outcome} (one : side.Silent first)
    (other : side.Silent second) : side.Alike first second := by
  intro c d same
  rw [one, other, same]

theorem Alike.of_andThen {outcome other : Outcome} {first second : Controller → Outcome}
    (alike : side.Alike first second) (same : side.of outcome = side.of other) :
    side.of (outcome.andThen first) = side.of (other.andThen second) := by
  rw [side.of_andThen, side.of_andThen, alike _ _ (congrArg Prod.fst same), same]

theorem Silent.of_andThen {step : Controller → Outcome} (silent : side.Silent step)
    (outcome : Outcome) : side.of (outcome.andThen step) = side.of outcome := by
  rw [side.of_andThen, silent, List.append_nil]
  rfl

end Side

/-! ## Two runs -/

/-- A side is blind to the arrivals in which it sees nothing, and those in which it sees the same
are alike to it. -/
structure Unwinds {ι : Type} (side : Side) (sees? : Arrival → Option ι) : Prop where
  blind : ∀ {c : Controller} {arrival : Arrival}, c.Live → sees? arrival = none →
    side.of (c.arrive arrival) = (side.keep c, [])
  alike : ∀ {c d : Controller} {first second : Arrival} {sight : ι}, c.Live → d.Live →
    sees? first = some sight → sees? second = some sight → side.keep c = side.keep d →
    side.of (c.arrive first) = side.of (d.arrive second)

variable {ι : Type} {side : Side} {sees? : Arrival → Option ι}

theorem Unwinds.of_takeAll_of_blind (unwinds : Unwinds side sees?) {c : Controller} (live : c.Live)
    {arrivals : List Arrival} (blind : ∀ arrival ∈ arrivals, sees? arrival = none) :
    side.of (c.takeAll arrivals) = (side.keep c, []) := by
  induction arrivals generalizing c with
  | nil => rfl
  | cons first rest ih =>
    have silent := unwinds.blind live (blind first (List.mem_cons_self ..))
    have kept : side.keep (c.arrive first).1 = side.keep c := congrArg Prod.fst silent
    have later := ih (live.arrive first) fun arrival member =>
      blind arrival (List.mem_cons_of_mem first member)
    rw [takeAll_cons, side.of_andThen, later, silent]
    exact Prod.ext kept rfl

/-- A side comes out of two runs the same if it sees the same in them. -/
theorem Unwinds.takeAll (unwinds : Unwinds side sees?) {c d : Controller} (live : c.Live)
    (liveToo : d.Live) (same : side.keep c = side.keep d) {left right : List Arrival}
    (sights : left.filterMap sees? = right.filterMap sees?) :
    side.of (c.takeAll left) = side.of (d.takeAll right) := by
  -- along the left run: what it sees next is what the right run sees next, after what neither sees
  induction left generalizing c d right with
  | nil =>
    have blind := List.filterMap_eq_nil_iff.mp sights.symm
    rw [unwinds.of_takeAll_of_blind liveToo blind, ← same]
    rfl
  | cons first rest ih =>
    cases sight : sees? first with
    | none =>
      rw [List.filterMap_cons_none sight] at sights
      have silent := unwinds.blind live sight
      have later := ih (live.arrive first) liveToo ((congrArg Prod.fst silent).trans same) sights
      rw [takeAll_cons, side.of_andThen, later, silent]
      rfl
    | some seen =>
      rw [List.filterMap_cons_some sight] at sights
      obtain ⟨before, second, after, rfl, blind, sightToo, sights⟩ :=
        List.filterMap_eq_cons_iff.mp sights.symm
      have silent := unwinds.of_takeAll_of_blind liveToo blind
      have reached := liveToo.takeAll before
      have stepped := unwinds.alike live reached sight sightToo
        (same.trans (congrArg Prod.fst silent).symm)
      have later := ih (live.arrive first) (reached.arrive second) (congrArg Prod.fst stepped)
        sights.symm
      rw [takeAll_append, side.of_andThen, silent, takeAll_cons, takeAll_cons, side.of_andThen,
        side.of_andThen, later, stepped]
      rfl

end InCallProximity.Controller
