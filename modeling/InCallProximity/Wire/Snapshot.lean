import InCallProximity.Snapshot
import InCallProximity.Wire

/-!
# Snapshots on the wire

Video flags may be left out, the parts of a snapshot may not.
-/

namespace InCallProximity

open Json

namespace VideoFlags

/-- The fields of video flags. One that is left out is off. -/
def record {δ : Type} [Source δ] : Record δ VideoFlags where
  title := "struct VideoCallState"
  fields := [
    .optional "attempting_video" decodeBool fun attempting video => { video with attempting },
    .optional "is_video_call" decodeBool fun isVideo video => { video with isVideo }]
  start := .off

instance : Wire VideoFlags where
  decode := record.decode
  print video := .object [
    ("attempting_video", .bool video.attempting),
    ("is_video_call", .bool video.isVideo)]
  display video := displayRecord "VideoCallState" [
    ("attempting_video", displayBool video.attempting),
    ("is_video_call", displayBool video.isVideo)]

end VideoFlags

namespace Snapshot

/-- The fields of a snapshot, all of which have to be present. -/
def record {δ : Type} [Source δ] : Record δ Snapshot where
  title := "struct SignalSnapshot"
  fields := [
    .needed "phase" decodeNamed fun phase s => { s with phase },
    .needed "outgoing_call" decodeBool fun outgoingCall s => { s with outgoingCall },
    .needed "route" decodeNamed fun route s => { s with route },
    .needed "orientation" decodeNamed fun orientation s => { s with orientation },
    .needed "proximity" decodeNamed fun proximity s => { s with proximity },
    .needed "ui" decodeNamed fun ui s => { s with ui },
    .needed "dialpad_visible" decodeBool fun dialpadVisible s => { s with dialpadVisible },
    .needed "video" VideoFlags.record.decode fun video s => { s with video },
    .needed "display_on" decodeBool fun displayOn s => { s with displayOn }]
  start := .initial

instance : Wire Snapshot where
  decode := record.decode
  print s := .object [
    ("phase", Wire.print s.phase),
    ("outgoing_call", Wire.print s.outgoingCall),
    ("route", Wire.print s.route),
    ("orientation", Wire.print s.orientation),
    ("proximity", Wire.print s.proximity),
    ("ui", Wire.print s.ui),
    ("dialpad_visible", Wire.print s.dialpadVisible),
    ("video", Wire.print s.video),
    ("display_on", Wire.print s.displayOn)]
  display s := displayRecord "SignalSnapshot" [
    ("phase", Wire.display s.phase),
    ("outgoing_call", Wire.display s.outgoingCall),
    ("route", Wire.display s.route),
    ("orientation", Wire.display s.orientation),
    ("proximity", Wire.display s.proximity),
    ("ui", Wire.display s.ui),
    ("dialpad_visible", Wire.display s.dialpadVisible),
    ("video", Wire.display s.video),
    ("display_on", Wire.display s.displayOn)]

end Snapshot

end InCallProximity
