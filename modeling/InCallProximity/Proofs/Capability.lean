import InCallProximity.Controller
import InCallProximity.Device
import Mathlib.Data.List.Chain

/-!
# Capabilities and their levels

Three capabilities of the platform are on or off: the trigger that blanks the screen, and the two
sensors. This module reads the same three levels off everything that speaks of them: off a command
and a call (`ofCommand?`, `ofCall?`), off a snapshot, which wants them on or off (`wanted`), and off
a controller, which remembers what it last asked for (`asked`).

`edge was is` is the least that leads from one level to another. A list of switches that grows by
edges alternates, starting with on, and ends at the level that was asked for last
(`Alternates.append_edge`, `level_append_edge`).
-/

namespace InCallProximity

/-- The call that a command asks for at once. The timer's commands ask for none. -/
def Command.call? : Command → Option PlatformCall
  | .acquireBlankTrigger => some .acquire
  | .releaseBlankTrigger immediate => some (.release immediate)
  | .startOrientationSensing => some (.orientation true)
  | .stopOrientationSensing => some (.orientation false)
  | .startProximitySensing => some (.proximity true)
  | .stopProximitySensing => some (.proximity false)
  | .scheduleRouteSwitch _ _ | .cancelScheduledRouteSwitch => none
  | .setRoute target => some (.route target)

/-- Something of the platform that is on or off. -/
inductive Capability where
  /-- the trigger that blanks the screen -/
  | blanking
  /-- the proximity sensor -/
  | proximity
  /-- the orientation sensor -/
  | orientation
deriving DecidableEq

namespace Capability

/-- What a call switches a capability to. -/
def ofCall? : Capability → PlatformCall → Option Bool
  | .blanking, .acquire => some true
  | .blanking, .release _ => some false
  | .proximity, .proximity enabled => some enabled
  | .orientation, .orientation enabled => some enabled
  | _, _ => none

/-- What a command switches a capability to. -/
def ofCommand? (κ : Capability) (command : Command) : Option Bool :=
  command.call?.bind κ.ofCall?

/-- Whether a snapshot wants a capability on. -/
def wanted : Capability → Snapshot → Bool
  | .blanking, s => s.blanking.arm
  | .proximity, s => s.isOffHook
  | .orientation, s => s.isOffHook && s.displayOn

/-- Whether a controller last asked for a capability to be on. -/
def asked : Capability → Controller → Bool
  | .blanking, c => c.blanking.armed
  | .proximity, c => c.sensing.callActive
  | .orientation, c => c.sensing.orientation

end Capability

/-! ## Levels and edges -/

/-- The level after switches; a capability that was never switched is off. -/
def level (switches : List Bool) : Bool := switches.getLast?.getD false

/-- Each switch is to the other level than before, and the first is on. -/
def Alternates (switches : List Bool) : Prop := List.IsChain (· ≠ ·) (false :: switches)

/-- What leads from one level to another: nothing, or one switch. -/
def edge (was is : Bool) : List Bool := if is = was then [] else [is]

@[simp] theorem edge_self (was : Bool) : edge was was = [] := by simp only [edge, if_true]

theorem length_edge_le_one (was is : Bool) : (edge was is).length ≤ 1 := by
  unfold edge
  split <;> simp

theorem edge_append {first second third : Bool} (one : first = second ∨ second = third) :
    edge first second ++ edge second third = edge first third := by
  rcases one with rfl | rfl
  · rw [edge_self, List.nil_append]
  · rw [edge_self, List.append_nil]

@[simp] theorem level_concat (switches : List Bool) (last : Bool) :
    level (switches ++ [last]) = last := by
  simp only [level, List.getLast?_append, List.getLast?_singleton, Option.some_or,
    Option.getD_some]

theorem level_append_edge (switches : List Bool) (is : Bool) :
    level (switches ++ edge (level switches) is) = is := by
  unfold edge
  split
  · next same => rw [List.append_nil, same]
  · rw [level_concat]

theorem Alternates.nil : Alternates [] := List.isChain_singleton false

theorem Alternates.append_edge {switches : List Bool} (alternates : Alternates switches)
    (is : Bool) : Alternates (switches ++ edge (level switches) is) := by
  unfold edge
  split
  · rw [List.append_nil]
    exact alternates
  · next differs =>
    have chain : List.IsChain (· ≠ ·) ((false :: switches) ++ [is]) := by
      refine List.IsChain.append alternates (List.isChain_singleton is) ?_
      intro last isLast first isFirst
      rw [List.getLast?_cons] at isLast
      cases isLast
      cases isFirst
      exact fun same => differs same.symm
    exact chain

theorem getLast?_eq_some_true_iff (switches : List Bool) :
    switches.getLast? = some true ↔ level switches = true := by
  unfold level
  cases switches.getLast? with
  | none => simp only [reduceCtorEq, Option.getD_none, Bool.false_eq_true]
  | some last => simp only [Option.some.injEq, Option.getD_some]

end InCallProximity
