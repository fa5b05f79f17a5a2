/-!
# A sample script

A call that the user places, with the phone at the ear at first, then lying on the table.
-/

namespace InCallProximity.Replay

/-- The steps of the sample, one a line. -/
def sampleLines : List String := [
  "\x7b\"type\": \"call_phase_changed\", \"phase\": \"outgoing\"\x7d",
  "\x7b\"type\": \"call_phase_changed\", \"phase\": \"active_off_hook\"\x7d",
  "\x7b\"type\": \"proximity_raw_sample\", \"distance\": 0.0, \"max_range\": 5.0\x7d",
  "\x7b\"type\": \"wait\", \"ms\": 1000\x7d",
  "\x7b\"type\": \"proximity_raw_sample\", \"distance\": 5.0, \"max_range\": 5.0\x7d",
  "\x7b\"type\": \"proximity_raw_sample\", \"distance\": 0.0, \"max_range\": 5.0\x7d",
  "\x7b\"type\": \"wait\", \"ms\": 3500\x7d",
  "\x7b\"type\": \"audio_route_changed\", \"route\": \"speaker\"\x7d",
  "\x7b\"type\": \"dialpad_visibility_changed\", \"visible\": true\x7d",
  "\x7b\"type\": \"orientation_changed\", \"orientation\": \"horizontal\"\x7d",
  "\x7b\"type\": \"call_phase_changed\", \"phase\": \"idle\"\x7d"]

/-- The sample script. It starts with an empty line. -/
def sample : String := "\n" ++ String.intercalate "\n" sampleLines ++ "\n"

end InCallProximity.Replay
