/-!
# What can be made, and where

A delayed switch needs a clock that wakes whoever carries it out. Parts that carry out delayed
switches can be made only where there is such a clock.
-/

namespace InCallProximity

/-- What can be made by itself. -/
inductive Part where
  | routeTimer
  /-- a platform that commands are handed over to -/
  | platform
  | platformSession
  | logSession
deriving DecidableEq

/-- The part carries out delayed switches. -/
def Part.needsClock : Part → Bool
  | .routeTimer | .platform | .platformSession => true
  | .logSession => false

/-- Why a part cannot be made. -/
inductive AssemblyProblem where
  /-- nothing would wake the timer -/
  | noClock
deriving DecidableEq

namespace AssemblyProblem

/-- What the user is told, with a way out. -/
def message : AssemblyProblem → String
  | .noClock =>
    "no tokio runtime available for the route switch timer - " ++
      "create the session inside a runtime or pass a handle"

/-- What the runtime says about it. -/
def cause : AssemblyProblem → String
  | .noClock =>
    "there is no reactor running, must be called from the context of a Tokio 1.x runtime"

end AssemblyProblem

/-- What keeps a part from being made, where there is a clock or none. -/
def Part.obstacle? (part : Part) (clock : Bool) : Option AssemblyProblem :=
  if part.needsClock && !clock then some .noClock else none

end InCallProximity
