import InCallProximity.Command

/-!
# Where commands go

A `CommandSink` takes commands one at a time. It may fail to take one, and it may have a deadline at
which something happens by itself.
-/

namespace InCallProximity

/-- Something that takes commands. -/
class CommandSink (β : Type) where
  /-- hands over a command at a time; false if it was lost -/
  dispatch : β → Nat → Command → β × Bool
  /-- when something is due to happen by itself -/
  deadline? : β → Option Nat
  /-- lets it happen, at a time -/
  ring : β → Nat → β
  /-- the routes that were set since the last report and have to be reported back -/
  report : β → β × List AudioRoute

namespace CommandSink

variable {β : Type} [CommandSink β]

/-- Hands over commands in order, up to the first that is lost; false if one was. -/
def dispatchAll (sink : β) (now : Nat) : List Command → β × Bool
  | [] => (sink, true)
  | command :: rest =>
    match dispatch sink now command with
    | (sink, true) => dispatchAll sink now rest
    | (sink, false) => (sink, false)

/-- When something happens by itself, in a span of time that starts at `now`: at its deadline, or at
the start if it is overdue. -/
def ringTime? (sink : β) (now span : Nat) : Option Nat :=
  match deadline? sink with
  | some deadline => if deadline ≤ now + span then some (max deadline now) else none
  | none => none

/-- Lets a span of time pass: what falls due in it happens, once. -/
def wait (sink : β) (now span : Nat) : β :=
  match ringTime? sink now span with
  | some time => ring sink time
  | none => sink

end CommandSink

end InCallProximity
