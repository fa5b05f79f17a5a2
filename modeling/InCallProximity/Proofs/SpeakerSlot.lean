import InCallProximity.Proofs.Controller.Standing

/-!
# The slot of the switch to the speaker

The switch to the speaker on its own, whoever calls it: with readings, snapshots and settings that
need not fit together, and with a clock that may go backwards. A call takes back the switch that is
owed, and then asks for at most one thing more (`respond_eq`). So schedules and cancellations take
turns in what is emitted, and what is owed is told by the last of them alone (`Track.Kept`). The
time of a query only decides whether the switch that is owed is shown.
-/

namespace InCallProximity

namespace SpeakerSwitch

/-- What can be asked of the switch to the speaker. -/
inductive Request where
  | read (reading : Proximity) (s : Snapshot) (settings : Settings)
  | cancel
deriving DecidableEq

/-- A request, at a time. The time of a later call may be an earlier one. -/
structure Call where
  request : Request
  time : Nat
deriving DecidableEq

/-- A command, with the time of the call that led to it. -/
structure Emission where
  command : Command
  time : Nat
deriving DecidableEq

/-- Makes one call. -/
def respond (speaker : SpeakerSwitch) (call : Call) : SpeakerSwitch × List Command :=
  match call.request with
  | .read reading s settings => speaker.read reading s settings call.time
  | .cancel => speaker.cancel

/-- A switch to the speaker, with all that it emitted so far. -/
structure Track where
  speaker : SpeakerSwitch
  emitted : List Emission
deriving DecidableEq

namespace Track

/-- Before the first call. -/
def fresh : Track := ⟨.initial, []⟩

/-- Makes one call and notes what it emits, with the time of the call. -/
def take (track : Track) (call : Call) : Track where
  speaker := (track.speaker.respond call).1
  emitted := track.emitted ++ (track.speaker.respond call).2.map (⟨·, call.time⟩)

/-- Makes calls in order, from the start. -/
def run (calls : List Call) : Track := calls.foldl take fresh

/-- The commands that were emitted, without their times. -/
def commands (track : Track) : List Command := track.emitted.map Emission.command

theorem commands_take (track : Track) (call : Call) :
    (track.take call).commands = track.commands ++ (track.speaker.respond call).2 := by
  unfold commands take
  rw [List.map_append, List.map_map]
  exact congrArg (_ ++ ·) (List.map_id _)

end Track

/-- The last emission that asks for a delayed switch or takes one back. -/
def lastDelay? (emitted : List Emission) : Option Emission :=
  (emitted.filter (·.command.delays?.isSome)).getLast?

/-- What is owed after what was emitted: the switch that the last emission about one asks for. -/
def owedAfter (emitted : List Emission) : Option PendingSwitch :=
  (lastDelay? emitted).bind fun last => owedBy last.time last.command

theorem owedAfter_concat (emitted : List Emission) (last : Emission) :
    owedAfter (emitted ++ [last]) =
      if last.command.delays?.isSome then owedBy last.time last.command
      else owedAfter emitted := by
  unfold owedAfter lastDelay?
  cases about : last.command.delays?.isSome with
  | true => simp [about]
  | false => simp [about]

variable (speaker : SpeakerSwitch)

/-- A call takes back what is owed, and asks for at most one thing more. -/
theorem respond_eq (call : Call) :
    ∃ further : Option Command, further ≠ some .cancelScheduledRouteSwitch ∧
      (speaker.respond call).2 = speaker.cancelCommands ++ further.toList ∧
      (speaker.respond call).1.owed = further.bind (owedBy call.time) := by
  obtain ⟨request, time⟩ := call
  cases request with
  | cancel => exact ⟨none, nofun, (List.append_nil _).symm, rfl⟩
  | read reading s settings =>
    refine ⟨response? reading s settings, ?_, rfl, rfl⟩
    rw [response?_eq_ite]
    split
    · cases reading with
      | far => exact nofun
      | near =>
        dsimp only
        split <;> exact nofun
    · exact nofun

/-- Whether a switch is asked for changes by edges: off if one is owed, and on if one is owed
next. -/
theorem respond_delays (call : Call) :
    (speaker.respond call).2.filterMap Command.delays? =
      edge speaker.owed.isSome false ++ edge false (speaker.respond call).1.owed.isSome := by
  obtain ⟨further, notCancel, commands, owed⟩ := speaker.respond_eq call
  rw [commands, owed, List.filterMap_append]
  have cancelled : speaker.cancelCommands.filterMap Command.delays? =
      edge speaker.owed.isSome false := by
    rcases speaker with ⟨_ | owed⟩ <;> rfl
  have asked : further.toList.filterMap Command.delays? =
      edge false (further.bind (owedBy call.time)).isSome := by
    cases further with
    | none => rfl
    | some command =>
      cases command with
      | cancelScheduledRouteSwitch => exact absurd rfl notCancel
      | _ => rfl
  rw [cancelled, asked]

/-- After the commands of a call, what was emitted tells what is owed, if it did so before. -/
theorem owedAfter_respond {emitted : List Emission} (told : speaker.owed = owedAfter emitted)
    (call : Call) :
    (speaker.respond call).1.owed =
      owedAfter (emitted ++ (speaker.respond call).2.map (⟨·, call.time⟩)) := by
  obtain ⟨further, notCancel, commands, owed⟩ := speaker.respond_eq call
  rw [commands, owed, List.map_append, ← List.append_assoc]
  have withdrawn :
      owedAfter (emitted ++ speaker.cancelCommands.map (⟨·, call.time⟩)) = none := by
    rcases speaker with ⟨_ | owed⟩
    · exact (congrArg owedAfter (List.append_nil emitted)).trans told.symm
    · exact owedAfter_concat emitted ⟨.cancelScheduledRouteSwitch, call.time⟩
  cases further with
  | none => rw [Option.toList_none, List.map_nil, List.append_nil, withdrawn]; rfl
  | some command =>
    have asked := owedAfter_concat (emitted ++ speaker.cancelCommands.map (⟨·, call.time⟩))
      ⟨command, call.time⟩
    refine Eq.trans ?_ asked.symm
    rw [withdrawn]
    cases command <;> rfl

theorem pending?_eq_some_iff (now : Nat) (switch : PendingSwitch) :
    speaker.pending? now = some switch ↔ speaker.owed = some switch ∧ now < switch.deadline := by
  unfold pending? PendingSwitch.isLive
  rw [Option.filter_eq_some_iff, decide_eq_true_iff]

theorem owedBy_eq_some_iff (time : Nat) (command : Command) (switch : PendingSwitch) :
    owedBy time command = some switch ↔
      ∃ target delay, command = .scheduleRouteSwitch target delay ∧
        switch = ⟨target, delay, time + delay.toNat⟩ := by
  cases command <;> simp [owedBy, eq_comm]

namespace Track

/-- What was emitted tells what is owed. -/
structure Kept (track : Track) : Prop where
  owed : track.speaker.owed = owedAfter track.emitted
  asked : level (track.commands.filterMap Command.delays?) = track.speaker.owed.isSome
  alternates : Alternates (track.commands.filterMap Command.delays?)

theorem fresh_kept : fresh.Kept := ⟨rfl, rfl, Alternates.nil⟩

theorem Kept.take {track : Track} (kept : track.Kept) (call : Call) : (track.take call).Kept := by
  -- off, if a switch is owed, and then on, if one is owed next
  have grown : (track.take call).commands.filterMap Command.delays? =
      track.commands.filterMap Command.delays? ++
          edge (level (track.commands.filterMap Command.delays?)) false ++
        edge false (track.take call).speaker.owed.isSome := by
    rw [commands_take, List.filterMap_append, respond_delays, kept.asked, List.append_assoc]
    rfl
  have off := level_append_edge (track.commands.filterMap Command.delays?) false
  have asked := level_append_edge (track.commands.filterMap Command.delays? ++
    edge (level (track.commands.filterMap Command.delays?)) false)
    (track.take call).speaker.owed.isSome
  have alternates := (kept.alternates.append_edge false).append_edge
    (track.take call).speaker.owed.isSome
  rw [off, ← grown] at asked alternates
  exact ⟨track.speaker.owedAfter_respond kept.owed call, asked, alternates⟩

theorem run_kept (calls : List Call) : (run calls).Kept := by
  induction calls using List.reverseRecOn with
  | nil => exact fresh_kept
  | append_singleton before last ih =>
    unfold run
    rw [List.foldl_append]
    exact ih.take last

end Track

/-- **The slot of the switch to the speaker.** After any calls, with any readings, snapshots and
settings, and at any times:

* the schedules and the cancellations that were emitted take turns, starting with a schedule;
* the next call emits a cancellation if the last of these was a schedule, and after that at most one
  command, which is no cancellation;
* whatever the time of a query, a switch is shown exactly if the last of these was a schedule and
  its delay has not passed since the time of its call. It is the switch that this schedule asks
  for. -/
theorem slot_follows_emissions (calls : List Call) :
    let track := Track.run calls
    Alternates (track.commands.filterMap Command.delays?) ∧
      (∀ next, ∃ further : Option Command, further ≠ some .cancelScheduledRouteSwitch ∧
        (track.speaker.respond next).2 =
          (if Command.Outstanding track.commands then [.cancelScheduledRouteSwitch] else []) ++
            further.toList) ∧
      ∀ now switch, track.speaker.pending? now = some switch ↔
        ∃ target delay time,
          lastDelay? track.emitted = some ⟨.scheduleRouteSwitch target delay, time⟩ ∧
            now < time + delay.toNat ∧ switch = ⟨target, delay, time + delay.toNat⟩ := by
  intro track
  have kept : track.Kept := Track.run_kept calls
  have told : track.speaker.owed.isSome = true ↔ Command.Outstanding track.commands := by
    rw [Command.outstanding_iff_level, kept.asked]
  refine ⟨kept.alternates, ?_, ?_⟩
  · intro next
    obtain ⟨further, notCancel, commands, -⟩ := track.speaker.respond_eq next
    exact ⟨further, notCancel, by rw [commands, cancelCommands_eq_ite told]⟩
  · intro now switch
    rw [pending?_eq_some_iff, kept.owed]
    unfold owedAfter
    rw [Option.bind_eq_some_iff]
    simp only [owedBy_eq_some_iff]
    constructor
    · rintro ⟨⟨⟨command, time⟩, last, target, delay, rfl, rfl⟩, live⟩
      exact ⟨target, delay, time, last, live, rfl⟩
    · rintro ⟨target, delay, time, last, live, rfl⟩
      exact ⟨⟨_, last, target, delay, rfl, rfl⟩, live⟩

/-- A switch whose time has come is no longer shown, but it is still owed. -/
example :
    let connected : Snapshot := { Snapshot.initial with phase := .activeOffHook }
    let speaker := (Track.run [⟨.read .near connected ⟨true, false, 10⟩, 100⟩]).speaker
    speaker.pending? 109 = some ⟨.speaker, 10, 110⟩ ∧ speaker.pending? 110 = none ∧
      (speaker.respond ⟨.cancel, 110⟩).2 = [.cancelScheduledRouteSwitch] := by decide

end SpeakerSwitch

end InCallProximity
