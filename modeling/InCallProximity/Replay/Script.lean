import InCallProximity.Text.Blank
import InCallProximity.Wire.Event

/-!
# Scripts

A script has one step a line: an event, or a wait. A wait is an object whose `type` is "wait"; its
`ms` says for how long, and anything but an unsigned integer there stands for no time at all. White
space around a step is dropped, and lines without a step are passed over but counted.
-/

namespace InCallProximity.Replay

open Json

/-- What a line of a script asks for. -/
inductive Step where
  /-- let time pass, in milliseconds -/
  | wait (span : UInt64)
  | event (event : Event)
deriving DecidableEq

/-- Why a line holds no step. -/
inductive LineProblem where
  | notJson (problem : Problem)
  | notEvent (problem : Problem)
deriving DecidableEq

/-- A line that holds no step, and why. -/
structure BadLine where
  /-- counted from one -/
  number : Nat
  problem : LineProblem
deriving DecidableEq

namespace LineProblem

/-- What is said of the line. -/
def title : LineProblem → String
  | .notJson _ => "not JSON"
  | .notEvent _ => "not an event"

/-- What is wrong with its text or its value. -/
def cause : LineProblem → Problem
  | .notJson problem | .notEvent problem => problem

end LineProblem

namespace Step

/-- The value is a wait. -/
def isWait (v : Value) : Bool :=
  match v.member? "type" with
  | some (.text kind) => kind = "wait"
  | _ => false

/-- How long a wait is; no time at all unless `ms` is an unsigned integer. -/
def span (v : Value) : UInt64 :=
  match v.member? "ms" with
  | some (.number (.unsigned n)) => n
  | _ => 0

/-- The step that a value holds: a wait, or else an event. -/
def ofValue (v : Value) : Except LineProblem Step :=
  if isWait v then .ok (.wait (span v))
  else match Wire.ofValue v with
    | .ok report => .ok (.event report)
    | .error problem => .error (.notEvent problem)

/-- The step that a trimmed line holds. -/
def ofLine (line : List Char) : Except LineProblem Step :=
  match Value.ofText line with
  | .ok v => ofValue v
  | .error problem => .error (.notJson problem)

end Step

/-- The lines of a script that hold steps, trimmed and with their numbers. -/
def stepLines (script : List Char) : List (Nat × List Char) :=
  (((Text.lines script).map Text.trim).zipIdx 1).filterMap fun (line, number) =>
    if line.isEmpty then none else some (number, line)

end InCallProximity.Replay
