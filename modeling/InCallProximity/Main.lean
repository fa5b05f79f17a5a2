import InCallProximity.Replay
import InCallProximity.Replay.Sample
import InCallProximity.SettingsFile

/-!
# The program

Replays the script whose path is given, or a sample script, and prints what happens when it happens.
-/

namespace InCallProximity.Program

/-- The number and the words of a refusal of the system. -/
def numberAndWords : IO.Error → Nat × String
  | .alreadyExists _ number words | .noFileOrDirectory _ number words
  | .interrupted _ number words | .invalidArgument _ number words
  | .permissionDenied _ number words | .resourceExhausted _ number words
  | .inappropriateType _ number words | .noSuchThing _ number words
  | .otherError number words | .resourceBusy number words | .resourceVanished number words
  | .unsupportedOperation number words | .hardwareFault number words
  | .unsatisfiedConstraints number words | .illegalOperation number words
  | .protocolError number words | .timeExpired number words => (number.toNat, words)
  | .unexpectedEof => (0, "unexpected end of file")
  | .userError words => (0, words)

/-- Why a file cannot be read. The system may give its numbers with the sign changed. -/
def failureOf (problem : IO.Error) : ReadFailure :=
  let (raw, words) := numberAndWords problem
  match if raw < UInt32.size / 2 then raw else UInt32.size - raw with
  | 2 => .missing
  | 20 => .notFolder
  | 21 => .isFolder
  | 36 => .nameTooLong
  | number => .refused words number

/-- Reads the bytes of a file. No file has a name with a zero byte in it. -/
def readFile (path : String) : IO FileContent := do
  if '\x00' ∈ path.toList then return .error .badName
  match ← (IO.FS.readBinFile path).toBaseIO with
  | .ok bytes => return .ok bytes
  | .error problem => return .error (failureOf problem)

/-- The user's folder for configuration: the one that is set, if its path is absolute, otherwise the
usual one in the home folder. Only the environment is asked where the home folder is. -/
def configFolder : IO (Option String) := do
  match (← IO.getEnv "XDG_CONFIG_HOME").filter Path.isAbsolute with
  | some folder => return some folder
  | none => return ((← IO.getEnv "HOME").filter (· ≠ "")).map (Path.join · ".config")

/-- Loads the settings of the user. -/
def readSettings : IO Settings := do
  SettingsFile.loadUsual readFile (← configFolder)

/-- Lets milliseconds pass, in pieces that the system can count. -/
def pause (span : Nat) : IO Unit := do
  for _ in List.range (span / 1000000) do
    IO.sleep 1000000
  IO.sleep (UInt32.ofNat (span % 1000000))

/-- Prints lines when their times have come, starting at a time. Returns the time of the last. -/
def tell : Nat → List (Nat × String) → IO Nat
  | now, [] => return now
  | now, (time, line) :: rest => do
    if now < time then pause (time - now)
    IO.println line
    (← IO.getStdout).flush
    tell (max now time) rest

end InCallProximity.Program

open InCallProximity InCallProximity.Program in
/-- Replays the script whose path is given, or the sample, and prints what happens at its time. -/
def main (args : List String) : IO UInt32 := do
  let (path, content) ← match args with
    | path :: _ => pure (path, ← readFile path)
    | [] => pure ("", .ok Replay.sample.toUTF8)
  let result := Replay.program (← readSettings) path content
  let now ← tell 0 result.lines
  pause (result.duration - now)
  match result.failure with
  | some failure => failure.report.forM fun line => IO.eprintln line
  | none => pure ()
  return UInt32.ofNat result.status
