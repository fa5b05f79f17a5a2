import InCallProximity.Files.Content
import InCallProximity.Files.Path
import InCallProximity.Wire.Settings

/-!
# The settings file

Settings are loaded from a file. No file means that the user said nothing; anything else that keeps
the settings from being read is a problem. Loading either takes over the whole file or nothing of
it, so whoever has to go on in spite of a problem goes on with the defaults.
-/

namespace InCallProximity.SettingsFile

open Json

/-- Why settings cannot be loaded. -/
inductive LoadProblem where
  | unreadable (path : String) (failure : ReadFailure)
  | malformed (path : String) (problem : Problem)
deriving DecidableEq

namespace LoadProblem

/-- The path of the file that could not be loaded. -/
def path : LoadProblem → String
  | .unreadable path _ | .malformed path _ => path

/-- What is said of a problem. It names the file and what is wrong with it. -/
def message : LoadProblem → String
  | .unreadable path failure =>
    "failed to read settings file '" ++ path ++ "': " ++ failure.message
  | .malformed path problem => "invalid settings in '" ++ path ++ "': " ++ problem.message

end LoadProblem

/-- Loads settings from what came of reading a path. A file that is missing says nothing, so the
defaults hold; any other failure is a problem. -/
def load (path : String) (content : FileContent) : Except LoadProblem Settings :=
  match content.text with
  | .error .missing => .ok .default
  | .error failure => .error (.unreadable path failure)
  | .ok text =>
    match Wire.ofText text.toList with
    | .ok settings => .ok settings
    | .error problem => .error (.malformed path problem)

/-- Loads settings, or goes on with the defaults. -/
def loadOrDefault (path : String) (content : FileContent) : Settings :=
  match load path content with
  | .ok settings => settings
  | .error _ => .default

/-! ## Where the file is -/

/-- The folder of the program in the user's folder for configuration. -/
def folderName : String := "proxcall"

/-- The usual place of the file, if the user has a folder for configuration. -/
def path? (configFolder : Option String) : Option String :=
  configFolder.map fun folder => Path.join (Path.join folder folderName) Settings.fileName

/-- Loads settings from the usual place with a reader of files. Without such a place there is
nothing to read, and the settings are the defaults. -/
def loadUsual {m : Type → Type} [Monad m] (read : String → m FileContent)
    (configFolder : Option String) : m Settings := do
  match path? configFolder with
  | some path => return loadOrDefault path (← read path)
  | none => return .default

end InCallProximity.SettingsFile
