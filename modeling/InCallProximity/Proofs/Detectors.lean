import InCallProximity.Proofs.Controller.Levels
import Mathlib.Data.List.Induction

/-!
# Detectors of edges

The blanking of the screen and the sensors on their own, whoever calls them, and with snapshots that
need not follow from each other. Each of them remembers what it last asked for. Still it does what
one does who looks at the last two calls alone: where the level that a call requires of a capability
is another one than the call before it did, there is one command, and where it is the same there is
none (`Upkeep.transition`). What is remembered is never more than the last call told
(`Blanking.run_fst`, `Sensing.run_fst`), so this holds of calls in any order, also after a stop.
-/

namespace InCallProximity

/-- The command that switches a capability; the trigger is released with the screen on or not. -/
def Capability.command (screenOn : Bool) : Capability → Bool → Command
  | .blanking, true => .acquireBlankTrigger
  | .blanking, false => .releaseBlankTrigger screenOn
  | .proximity, true => .startProximitySensing
  | .proximity, false => .stopProximitySensing
  | .orientation, true => .startOrientationSensing
  | .orientation, false => .stopOrientationSensing

theorem Capability.switches_command (κ other : Capability) (screenOn : Bool) (levels : List Bool) :
    κ.switches (levels.map (other.command screenOn)) = if κ = other then levels else [] := by
  unfold Capability.switches
  induction levels with
  | nil => exact (ite_self []).symm
  | cons is rest ih =>
    rw [List.map_cons, List.filterMap_cons, ih]
    cases κ <;> cases other <;> cases is <;> rfl

/-- A call: to follow a snapshot, or to stop whatever it is. -/
inductive Upkeep where
  | follow (s : Snapshot)
  | stop
deriving DecidableEq

namespace Upkeep

/-- The level that a call requires of a capability. -/
def requires (κ : Capability) : Upkeep → Bool
  | .follow s => κ.wanted s
  | .stop => false

/-- Whether a trigger that a call releases is released with the screen on. -/
def showsScreen : Upkeep → Bool
  | .follow s => s.blanking.screenOn
  | .stop => true

/-- The level after calls is what the last of them requires; before the first it is off. -/
def levelAfter (κ : Capability) (calls : List Upkeep) : Bool :=
  (calls.getLast?.map (requires κ)).getD false

/-- The command for a capability, if a call requires another level of it than there was. -/
def transition (calls : List Upkeep) (next : Upkeep) (κ : Capability) : List Command :=
  (edge (levelAfter κ calls) (next.requires κ)).map (κ.command next.showsScreen)

/-- The proximity sensor is switched first, but it is stopped last. -/
def sensors : Upkeep → List Capability
  | .follow _ => [.proximity, .orientation]
  | .stop => [.orientation, .proximity]

@[simp] theorem levelAfter_concat (κ : Capability) (calls : List Upkeep) (next : Upkeep) :
    levelAfter κ (calls ++ [next]) = next.requires κ := by
  simp only [levelAfter, List.getLast?_append, List.getLast?_singleton, Option.some_or,
    Option.map_some, Option.getD_some]

theorem switches_transition (calls : List Upkeep) (next : Upkeep) (κ other : Capability) :
    κ.switches (next.transition calls other) =
      if κ = other then edge (levelAfter κ calls) (next.requires κ) else [] := by
  unfold transition
  rw [Capability.switches_command]
  split
  · next same => rw [same]
  · rfl

/-! ## Runs -/

section Runs

variable {σ : Type} (respond : σ → Upkeep → σ × List Command) (start : σ)

/-- Makes calls in order; all commands that they return are collected. -/
def run (calls : List Upkeep) : σ × List Command :=
  calls.foldl (fun sofar next =>
    ((respond sofar.1 next).1, sofar.2 ++ (respond sofar.1 next).2)) (start, [])

theorem run_concat (calls : List Upkeep) (next : Upkeep) :
    run respond start (calls ++ [next]) =
      ((respond (run respond start calls).1 next).1,
        (run respond start calls).2 ++ (respond (run respond start calls).1 next).2) :=
  List.foldl_append

variable {respond start}

/-- Commands that are edges on a capability alternate, and tell the level after every call. -/
theorem run_switches {κ : Capability}
    (edged : ∀ calls next, κ.switches (respond (run respond start calls).1 next).2 =
      edge (levelAfter κ calls) (next.requires κ)) (calls : List Upkeep) :
    level (κ.switches (run respond start calls).2) = levelAfter κ calls ∧
      Alternates (κ.switches (run respond start calls).2) := by
  induction calls using List.reverseRecOn with
  | nil => exact ⟨rfl, Alternates.nil⟩
  | append_singleton before last ih =>
    obtain ⟨told, alternates⟩ := ih
    have grown : κ.switches (run respond start (before ++ [last])).2 =
        κ.switches (run respond start before).2 ++
          edge (level (κ.switches (run respond start before).2)) (last.requires κ) := by
      rw [run_concat, κ.switches_append, edged, told]
    rw [grown, level_append_edge, levelAfter_concat]
    exact ⟨rfl, alternates.append_edge _⟩

end Runs

end Upkeep

open Upkeep

/-! ## The blanking of the screen -/

namespace Blanking

/-- Makes a call, which gives one command at most. -/
def respond (b : Blanking) : Upkeep → Blanking × List Command
  | .follow s => ((b.update s).1, (b.update s).2.toList)
  | .stop => (b.release.1, b.release.2.toList)

/-- Makes calls in order, from the start. -/
def run (calls : List Upkeep) : Blanking × List Command := Upkeep.run respond initial calls

theorem respond_eq (b : Blanking) (next : Upkeep) :
    b.respond next =
      (⟨next.requires .blanking⟩,
        (edge b.armed (next.requires .blanking)).map
          (Capability.blanking.command next.showsScreen)) := by
  rcases b with ⟨armed⟩
  cases next with
  | stop => cases armed <;> rfl
  | follow s =>
    change (((⟨armed⟩ : Blanking).update s).1, ((⟨armed⟩ : Blanking).update s).2.toList) =
      (⟨s.blanking.arm⟩,
        (edge armed s.blanking.arm).map (Capability.blanking.command s.blanking.screenOn))
    unfold update
    generalize s.blanking = decision
    rcases decision with ⟨screenOn, arm⟩
    cases armed <;> cases arm <;> rfl

/-- What is remembered is the level that the last call required. -/
theorem run_fst (calls : List Upkeep) : (run calls).1 = ⟨levelAfter .blanking calls⟩ := by
  rcases List.eq_nil_or_concat' calls with rfl | ⟨before, last, rfl⟩
  · rfl
  · unfold run
    rw [run_concat, respond_eq, levelAfter_concat]

theorem respond_run (calls : List Upkeep) (next : Upkeep) :
    ((run calls).1.respond next).2 = next.transition calls .blanking := by
  rw [respond_eq, run_fst]
  rfl

end Blanking

/-! ## The sensors -/

namespace Sensing

/-- Makes a call. Its report that the call was connected or ended is dropped. -/
def respond (sensing : Sensing) : Upkeep → Sensing × List Command
  | .follow s => ((sensing.update s).1, (sensing.update s).2.commands)
  | .stop => sensing.shutdown

/-- Makes calls in order, from the start. -/
def run (calls : List Upkeep) : Sensing × List Command := Upkeep.run respond initial calls

theorem respond_fst (sensing : Sensing) (next : Upkeep) :
    (sensing.respond next).1 = ⟨next.requires .proximity, next.requires .orientation⟩ := by
  cases next <;> rfl

theorem proximityCommands_eq (screenOn was is : Bool) :
    proximityCommands was is = (edge was is).map (Capability.proximity.command screenOn) := by
  cases was <;> cases is <;> rfl

theorem orientationCommands_eq (screenOn was is : Bool) :
    orientationCommands was is = (edge was is).map (Capability.orientation.command screenOn) := by
  cases was <;> cases is <;> rfl

/-- What is remembered are the levels that the last call required. -/
theorem run_fst (calls : List Upkeep) :
    (run calls).1 = ⟨levelAfter .proximity calls, levelAfter .orientation calls⟩ := by
  rcases List.eq_nil_or_concat' calls with rfl | ⟨before, last, rfl⟩
  · rfl
  · unfold run
    rw [run_concat, respond_fst, levelAfter_concat, levelAfter_concat]

theorem respond_run (calls : List Upkeep) (next : Upkeep) :
    ((run calls).1.respond next).2 = next.sensors.flatMap (next.transition calls) := by
  rw [run_fst]
  cases next with
  | follow s =>
    change proximityCommands _ _ ++ orientationCommands _ _ = _ ++ (_ ++ [])
    rw [proximityCommands_eq s.blanking.screenOn, orientationCommands_eq s.blanking.screenOn,
      List.append_nil]
    rfl
  | stop =>
    change orientationCommands _ _ ++ proximityCommands _ _ = _ ++ (_ ++ [])
    rw [proximityCommands_eq true, orientationCommands_eq true, List.append_nil]
    rfl

theorem switches_respond_run {κ : Capability} (sensor : κ ≠ .blanking) (calls : List Upkeep)
    (next : Upkeep) :
    κ.switches ((run calls).1.respond next).2 =
      edge (levelAfter κ calls) (next.requires κ) := by
  rw [respond_run]
  cases κ with
  | blanking => exact absurd rfl sensor
  | proximity | orientation =>
    cases next <;>
      simp [sensors, Capability.switches_append, switches_transition]

end Sensing

/-- **The blanking of the screen and the sensors detect edges.** After any calls to follow a
snapshot or to stop:

* the next call to the blanking of the screen returns a command exactly if it requires another level
  than the call before it did, and a release shows the screen as the snapshot wants it, or at a
  stop;
* the next call to the sensors returns a command for each sensor of which it requires another level;
* it reports that the call was connected or ended exactly if the proximity sensor is one of these;
* so for each capability the commands returned so far switch it on and off in turn, beginning with
  on, and the last one tells the level that the last call required. -/
theorem commands_are_edges (calls : List Upkeep) (next : Upkeep) :
    let blanking := Blanking.run calls
    let sensing := Sensing.run calls
    (blanking.1.respond next).2 = next.transition calls .blanking ∧
      (sensing.1.respond next).2 = next.sensors.flatMap (next.transition calls) ∧
      (∀ s, (sensing.1.update s).2.callActive = true ↔
        s.isOffHook ≠ levelAfter .proximity calls) ∧
      (level (Capability.blanking.switches blanking.2) = levelAfter .blanking calls ∧
        Alternates (Capability.blanking.switches blanking.2)) ∧
      ∀ κ, κ ≠ .blanking →
        level (κ.switches sensing.2) = levelAfter κ calls ∧
          Alternates (κ.switches sensing.2) := by
  intro blanking sensing
  refine ⟨Blanking.respond_run calls next, Sensing.respond_run calls next, ?_, ?_, ?_⟩
  · intro s
    have remembered : sensing.1 = _ := Sensing.run_fst calls
    rw [remembered]
    exact decide_eq_true_iff
  · refine @run_switches _ Blanking.respond _ .blanking ?_ calls
    intro calls next
    exact (congrArg _ (Blanking.respond_run calls next)).trans
      (switches_transition calls next .blanking .blanking)
  · intro κ sensor
    exact run_switches (Sensing.switches_respond_run sensor) calls

end InCallProximity
