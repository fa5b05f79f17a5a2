import InCallProximity.Proofs.Controller.Readings
import InCallProximity.Proofs.Controller.Runs

/-!
# What commands leave standing

Commands that were given leave something standing: a capability that was switched on and not off
again, and a delayed switch that was asked for and not taken back (`Command.Outstanding`). What a
controller remembers is just that (`Outcome.Told`): of each capability the level that it was last
switched to, and of the delayed switch whether one is outstanding.
-/

namespace InCallProximity

/-- An element of a list that ends in one more element is that one, or it comes before it. -/
theorem concat_eq_append_cons_iff {α : Type} {sofar before after : List α} {last element : α} :
    sofar ++ [last] = before ++ element :: after ↔
      (sofar = before ∧ last = element ∧ after = []) ∨
        ∃ sooner, after = sooner ++ [last] ∧ sofar = before ++ element :: sooner := by
  constructor
  · intro split
    rcases List.eq_nil_or_concat after with rfl | ⟨sooner, final, rfl⟩
    · obtain ⟨same, sameToo⟩ := List.append_inj' split rfl
      exact Or.inl ⟨same, List.singleton_inj.mp sameToo, rfl⟩
    · rw [List.concat_eq_append, ← List.cons_append, ← List.append_assoc] at split
      obtain ⟨same, sameToo⟩ := List.append_inj' split rfl
      refine Or.inr ⟨sooner, ?_, same⟩
      rw [List.concat_eq_append, sameToo]
  · rintro (⟨rfl, rfl, rfl⟩ | ⟨sooner, rfl, rfl⟩)
    · rfl
    · rw [List.append_assoc, List.cons_append]

/-! ## Delayed switches that are outstanding -/

namespace Command

/-- A delayed switch was asked for, and not taken back since. -/
def Outstanding (commands : List Command) : Prop :=
  ∃ before target delay after, commands = before ++ .scheduleRouteSwitch target delay :: after ∧
    .cancelScheduledRouteSwitch ∉ after

theorem not_outstanding_nil : ¬ Outstanding [] := by
  rintro ⟨before, target, delay, after, split, -⟩
  exact List.append_ne_nil_of_right_ne_nil before (List.cons_ne_nil _ after) split.symm

/-- The last command asks for a switch, or it does not take back the one that is outstanding. -/
theorem outstanding_concat (commands : List Command) (last : Command) :
    Outstanding (commands ++ [last]) ↔
      (∃ target delay, last = .scheduleRouteSwitch target delay) ∨
        last ≠ .cancelScheduledRouteSwitch ∧ Outstanding commands := by
  constructor
  · rintro ⟨before, target, delay, after, split, kept⟩
    rcases concat_eq_append_cons_iff.mp split with ⟨-, same, -⟩ | ⟨sooner, rfl, same⟩
    · exact Or.inl ⟨target, delay, same⟩
    · rw [List.mem_append, not_or, List.mem_singleton] at kept
      exact Or.inr ⟨fun cancels => kept.2 cancels.symm, before, target, delay, sooner, same, kept.1⟩
  · rintro (⟨target, delay, rfl⟩ | ⟨keeps, before, target, delay, after, rfl, kept⟩)
    · exact ⟨commands, target, delay, [], rfl, List.not_mem_nil⟩
    · refine ⟨before, target, delay, after ++ [last], ?_, ?_⟩
      · rw [List.append_assoc, List.cons_append]
      · rw [List.mem_append, not_or, List.mem_singleton]
        exact ⟨kept, fun cancels => keeps cancels.symm⟩

/-- Whether a command asks for a delayed switch, or takes it back. -/
def delays? : Command → Option Bool
  | .scheduleRouteSwitch _ _ => some true
  | .cancelScheduledRouteSwitch => some false
  | _ => none

/-- A delayed switch is outstanding if the last command about one asks for it. -/
theorem outstanding_iff_level (commands : List Command) :
    Outstanding commands ↔ level (commands.filterMap delays?) = true := by
  induction commands using List.reverseRecOn with
  | nil => exact iff_of_false not_outstanding_nil Bool.false_ne_true
  | append_singleton before last ih =>
    rw [outstanding_concat, ih, List.filterMap_append]
    cases last <;> simp [delays?, List.filterMap_cons]

instance (commands : List Command) : Decidable (Outstanding commands) :=
  decidable_of_iff _ (outstanding_iff_level commands).symm

/-- Only commands about the audio route matter. -/
theorem outstanding_append_routes (commands more : List Command) :
    Outstanding (commands ++ routes more) ↔ Outstanding (commands ++ more) := by
  have same : (routes more).filterMap delays? = more.filterMap delays? := by
    unfold routes
    rw [List.filterMap_filter]
    refine congrArg (more.filterMap ·) (funext fun command => ?_)
    cases command <;> rfl
  rw [outstanding_iff_level, outstanding_iff_level, List.filterMap_append, List.filterMap_append,
    same]

end Command

namespace SpeakerSwitch

variable {speaker : SpeakerSwitch} {commands : List Command}

theorem cancelCommands_eq_ite
    (told : speaker.owed.isSome = true ↔ Command.Outstanding commands) :
    speaker.cancelCommands =
      if Command.Outstanding commands then [.cancelScheduledRouteSwitch] else [] := by
  rcases speaker with ⟨_ | owed⟩
  · rw [if_neg fun outstanding => Bool.false_ne_true (told.mpr outstanding)]
    rfl
  · rw [if_pos (told.mp rfl)]
    rfl

theorem not_outstanding_cancelCommands
    (told : speaker.owed.isSome = true ↔ Command.Outstanding commands) :
    ¬ Command.Outstanding (commands ++ speaker.cancelCommands) := by
  rcases speaker with ⟨_ | owed⟩
  · change ¬ Command.Outstanding (commands ++ [])
    rw [List.append_nil, ← told]
    exact Bool.false_ne_true
  · change ¬ Command.Outstanding (commands ++ [.cancelScheduledRouteSwitch])
    rw [Command.outstanding_concat]
    rintro (⟨target, delay, same⟩ | ⟨other, -⟩)
    · cases same
    · exact other rfl

/-- After a reading a switch is owed exactly if the commands leave one outstanding. -/
theorem read_outstanding (told : speaker.owed.isSome = true ↔ Command.Outstanding commands)
    (reading : Proximity) (s : Snapshot) (settings : Settings) (now : Nat) :
    (speaker.read reading s settings now).1.owed.isSome = true ↔
      Command.Outstanding (commands ++ (speaker.read reading s settings now).2) := by
  have withdrawn := not_outstanding_cancelCommands told
  unfold read
  cases response? reading s settings with
  | none =>
    change false = true ↔ Command.Outstanding (commands ++ (speaker.cancelCommands ++ []))
    rw [List.append_nil]
    exact iff_of_false Bool.false_ne_true withdrawn
  | some command =>
    change (owedBy now command).isSome = true ↔
      Command.Outstanding (commands ++ (speaker.cancelCommands ++ [command]))
    rw [← List.append_assoc, Command.outstanding_concat]
    cases command <;> simp [owedBy, withdrawn]

end SpeakerSwitch

/-! ## What a controller remembers -/

namespace Controller

/-- A controller remembers what the commands so far leave standing. On each capability they were
switches on and off in turn. -/
structure Outcome.Told (outcome : Outcome) : Prop where
  asked : ∀ κ : Capability, level (κ.switches outcome.2) = κ.asked outcome.1
  alternates : ∀ κ : Capability, Alternates (κ.switches outcome.2)
  owed : outcome.1.speaker.owed.isSome = true ↔ Command.Outstanding outcome.2

theorem initial_told : Outcome.Told (initial, []) where
  asked κ := by cases κ <;> rfl
  alternates κ := Alternates.nil
  owed := iff_of_false Bool.false_ne_true Command.not_outstanding_nil

/-- A step whose commands are edges is remembered, if the delayed switch is. -/
theorem Outcome.Told.andThen {outcome : Outcome} {step : Controller → Outcome}
    (told : outcome.Told) (edged : (step outcome.1).Edged outcome.1)
    (owed : (step outcome.1).1.speaker.owed.isSome = true ↔
      Command.Outstanding (outcome.2 ++ (step outcome.1).2)) :
    (outcome.andThen step).Told := by
  have grown : ∀ κ : Capability, κ.switches (outcome.andThen step).2 =
      κ.switches outcome.2 ++
        edge (level (κ.switches outcome.2)) (κ.asked (step outcome.1).1) := by
    intro κ
    rw [told.asked, ← edged κ]
    exact κ.switches_append _ _
  refine ⟨?_, ?_, owed⟩
  · intro κ
    rw [grown, level_append_edge]
    rfl
  · intro κ
    rw [grown]
    exact (told.alternates κ).append_edge _

theorem Outcome.Told.arrive {outcome : Outcome} (told : outcome.Told) (arrival : Arrival) :
    (outcome.andThen (Controller.arrive · arrival)).Told := by
  refine told.andThen (outcome.1.handle_edged _ _ _) ?_
  rw [← Command.outstanding_append_routes]
  change (outcome.1.handle _ _ _).1.speaker.owed.isSome = true ↔
    Command.Outstanding (outcome.2 ++ Command.routes (outcome.1.handle _ _ _).2)
  cases reads : outcome.1.reading? arrival.event with
  | some reading =>
    have answers := handle_of_reading reads arrival.settings arrival.time
    rw [answers.speaker, answers.routes]
    exact SpeakerSwitch.read_outstanding told.owed _ _ _ _
  | none =>
    have aside := handle_of_no_reading reads arrival.settings arrival.time
    rw [aside.speaker, aside.routes, List.append_nil]
    exact told.owed

theorem Outcome.Told.teardown {outcome : Outcome} (told : outcome.Told)
    (alive : outcome.1.tornDown = false) : (outcome.andThen Controller.teardown).Told := by
  refine told.andThen outcome.1.teardown_edged ?_
  obtain ⟨initial, cancels⟩ := teardown_routes alive
  rw [← Command.outstanding_append_routes, initial, cancels]
  exact iff_of_false Bool.false_ne_true (SpeakerSwitch.not_outstanding_cancelCommands told.owed)

theorem takeAll_told (arrivals : List Arrival) : (initial.takeAll arrivals).Told :=
  takeAll_induction initial_told (fun _ arrival told => told.arrive arrival) arrivals

end Controller

end InCallProximity
