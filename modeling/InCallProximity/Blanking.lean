import InCallProximity.Command
import InCallProximity.Snapshot

/-!
# Blanking the screen

Whether the trigger that blanks the screen when something is near should be armed. `Blanking`
remembers what was last asked for, so a command goes out only when the decision changes.
-/

namespace InCallProximity

namespace Blanking

/-- What a snapshot says about the screen and the trigger. -/
structure Decision where
  /-- the user wants to see the screen -/
  screenOn : Bool
  /-- the trigger should be armed -/
  arm : Bool
deriving DecidableEq

end Blanking

namespace Snapshot

/-- The user wants to see the screen: audio does not go to the ear, video is in play, or the device
lies flat while another application is in front or while the dialpad is open. -/
def wantsScreen (s : Snapshot) : Bool :=
  s.route.keepsScreenOn || s.video.any ||
    (!s.uiShowing && s.isHorizontal) || (s.dialpadVisible && s.isHorizontal)

/-- The phone rings or the call is connected. -/
def mayBeAtEar (s : Snapshot) : Bool := s.phase = .activeOffHook || s.phase = .incoming

/-- The trigger is armed while the phone may be at the ear, unless the user wants to see the
screen. -/
def blanking (s : Snapshot) : Blanking.Decision where
  screenOn := s.wantsScreen
  arm := s.mayBeAtEar && !s.wantsScreen

end Snapshot

/-- Whether the trigger was last asked to be armed. -/
structure Blanking where
  armed : Bool
deriving DecidableEq

namespace Blanking

/-- Nothing was asked for yet, so the trigger is released. -/
def initial : Blanking := ⟨false⟩

/-- Follows the decision for a snapshot. A release is immediate if the user wants to see the
screen. -/
def update (b : Blanking) (s : Snapshot) : Blanking × Option Command :=
  let decision := s.blanking
  if decision.arm = b.armed then (b, none)
  else if decision.arm then (⟨true⟩, some .acquireBlankTrigger)
  else (⟨false⟩, some (.releaseBlankTrigger decision.screenOn))

/-- Releases the trigger whatever the snapshot, with the screen on. -/
def release (b : Blanking) : Blanking × Option Command :=
  (⟨false⟩, if b.armed then some (.releaseBlankTrigger true) else none)

end Blanking

end InCallProximity
