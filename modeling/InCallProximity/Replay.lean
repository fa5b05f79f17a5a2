import InCallProximity.Files.Content
import InCallProximity.Platform
import InCallProximity.Replay.Entry
import InCallProximity.Session

/-!
# Replaying a script

A replay takes the steps of a script in order through a session on a platform. It stops at the first
line that holds no step. Either way the call screen ends, so that the platform is left as it was.
-/

namespace InCallProximity.Replay

/-- Takes a step. No command can be lost on a platform. -/
def take (s : Session Platform) : Step → Session Platform
  | .wait span => s.wait span.toNat
  | .event event => (s.apply event).1

/-- Ends the call screen. No command can be lost on a platform. -/
def finish (s : Session Platform) : Session Platform := s.teardown.1

/-- The calls made between two states of a session, with their times. -/
def callsSince (before after : Session Platform) : List (Nat × Entry) :=
  (after.sink.calls.drop before.sink.calls.length).map fun (time, call) => (time, .call call)

/-- What came of a replay. -/
structure Outcome where
  session : Session Platform
  entries : List (Nat × Entry)
  /-- the line at which the replay stopped, if it did not reach the end of the script -/
  stopped : Option BadLine

/-- Ends a replay, at the end of the script or at a bad line. -/
def conclude (s : Session Platform) (stopped : Option BadLine) : Outcome :=
  ⟨finish s, callsSince s (finish s), stopped⟩

/-- Takes the steps of numbered lines in order, up to the first line that holds none. A step is told
of before the calls that it leads to. -/
def follow (s : Session Platform) : List (Nat × List Char) → Outcome
  | [] => conclude s none
  | (number, line) :: rest =>
    match Step.ofLine line with
    | .error problem => conclude s (some ⟨number, problem⟩)
    | .ok step =>
      let next := take s step
      let outcome := follow next rest
      { outcome with entries := (s.clock, .step step) :: callsSince s next ++ outcome.entries }

/-- Replays move the audio to the speaker, whatever else the user prefers. -/
def preferences (settings : Settings) : Settings := { settings with autoSpeaker := true }

/-- A session under some settings, on an idle platform that reports nothing back. -/
def start (settings : Settings) : Session Platform := .start ⟨settings, none⟩ (.idle false)

/-- Replays a script from the start. -/
def run (settings : Settings) (script : List Char) : Outcome :=
  follow (start settings) (stepLines script)

/-! ## The program -/

/-- Why the program fails. -/
inductive Failure where
  | unreadable (path : String) (failure : ReadFailure)
  | badLine (line : BadLine)
deriving DecidableEq

namespace Failure

/-- What went wrong, and where. -/
def message : Failure → String
  | .unreadable path _ => "reading script " ++ path
  | .badLine line => "line " ++ toString line.number ++ ": " ++ line.problem.title

/-- Why it went wrong. -/
def cause : Failure → String
  | .unreadable _ failure => failure.message
  | .badLine line => line.problem.cause.message

/-- What is printed about a failure. -/
def report (failure : Failure) : List String :=
  ["Error: " ++ failure.message, "", "Caused by:", "    " ++ failure.cause]

end Failure

/-- What the program prints, with the times in milliseconds, when it ends, and why it fails if it
does. -/
structure Result where
  lines : List (Nat × String)
  duration : Nat
  failure : Option Failure

namespace Result

/-- The exit code: zero unless the program fails. -/
def status (result : Result) : Nat := if result.failure.isSome then 1 else 0

end Result

/-- What is printed of a replay: the settings, what happened, and a last line if the script was
replayed to its end. -/
def Outcome.result (settings : Settings) (outcome : Outcome) : Result where
  lines :=
    (heading settings).map (0, ·) ++
      outcome.entries.map (fun (time, entry) => (time, entry.line)) ++
      if outcome.stopped.isNone then closing.map (outcome.session.clock, ·) else []
  duration := outcome.session.clock
  failure := outcome.stopped.map .badLine

/-- Runs the program on what comes of reading the script at a path. -/
def program (settings : Settings) (path : String) (content : FileContent) : Result :=
  match content.text with
  | .ok script =>
    let settings := preferences settings
    (run settings script.toList).result settings
  | .error failure => ⟨[], 0, some (.unreadable path failure)⟩

end InCallProximity.Replay
