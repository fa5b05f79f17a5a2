/-!
# Settings

What the user prefers about the audio route. Settings are only read here; they can change between
any two events.
-/

namespace InCallProximity

/-- What the user prefers. -/
structure Settings where
  /-- move the audio to the speaker when something is near -/
  autoSpeaker : Bool
  /-- never do that on calls that the user placed -/
  inCallOnly : Bool
  /-- milliseconds for which something has to be near first -/
  switchDelay : UInt64
deriving DecidableEq

namespace Settings

/-- The delay before audio moves to the speaker, unless the user sets one. -/
def defaultSwitchDelay : UInt64 := 3000

/-- What holds as long as the user says nothing. -/
def default : Settings := ⟨false, false, defaultSwitchDelay⟩

/-- The name of the file that settings are kept in. -/
def fileName : String := "settings.json"

end Settings

end InCallProximity
