import InCallProximity.Assembly
import InCallProximity.CommandLog
import InCallProximity.Files.Tree
import InCallProximity.Host
import InCallProximity.Main
import InCallProximity.Wire.Command
import InCallProximity.Wire.Snapshot
import InCallProximity.Proofs.Capability
import InCallProximity.Proofs.Controller.Levels
import InCallProximity.Proofs.Controller.Readings
import InCallProximity.Proofs.Platform.Dispatch
import InCallProximity.Proofs.Session.Moves
import InCallProximity.Proofs.Session.Mirror
import InCallProximity.Proofs.Session.Bookkeeping
import InCallProximity.Proofs.Session.SpeakerCalls
import InCallProximity.Proofs.RouteTimer.Refinement
import InCallProximity.Proofs.Controller.Runs
import InCallProximity.Proofs.Controller.Standing
import InCallProximity.Proofs.Controller.History
import InCallProximity.Proofs.Controller.Independence
import InCallProximity.Proofs.Controller.RouteCommands
import InCallProximity.Proofs.Controller.Stuttering
import InCallProximity.Proofs.Controller.Causes
import InCallProximity.Proofs.Controller.Commuting
import InCallProximity.Proofs.SpeakerSlot
import InCallProximity.Proofs.Ending
import InCallProximity.Proofs.Replay.Calls
import InCallProximity.Proofs.Wire.Agreement
import InCallProximity.Proofs.Wire.RoundTrip
import InCallProximity.Proofs.Wire.Distance
import InCallProximity.Proofs.Wire.Settings
import InCallProximity.Proofs.Wire.SettingsText
import InCallProximity.Proofs.Wire.IntegerSamples
import InCallProximity.Proofs.Detectors
import InCallProximity.Proofs.Platform.Guard
import InCallProximity.Proofs.SettingsFile
