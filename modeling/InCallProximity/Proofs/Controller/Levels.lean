import InCallProximity.Proofs.Capability

/-!
# The controller keeps its levels

A controller remembers what it last asked of each capability. Whatever it takes up, the commands it
returns are, on each capability, the edge from the level it asked for before to the one it asks for
now (`handle_edged`, `teardown_edged`), and until the call screen is gone that level is the
one the snapshot wants (`InStep`).
-/

namespace InCallProximity

/-- What commands switch a capability to, in order. -/
def Capability.switches (κ : Capability) (commands : List Command) : List Bool :=
  commands.filterMap κ.ofCommand?

theorem Capability.switches_append (κ : Capability) (first rest : List Command) :
    κ.switches (first ++ rest) = κ.switches first ++ κ.switches rest :=
  List.filterMap_append

/-! ## The parts of the controller -/

/-- Following a snapshot, the blanking of the screen asks for the edge to the level that the
snapshot wants, and the sensors are left alone. -/
theorem Blanking.update_switches (b : Blanking) (s : Snapshot) (κ : Capability) :
    κ.switches (b.update s).2.toList =
      match κ with
      | .blanking => edge b.armed (b.update s).1.armed
      | .proximity | .orientation => [] := by
  rcases b with ⟨armed⟩
  unfold Blanking.update
  generalize s.blanking = decision
  rcases decision with ⟨screenOn, arm⟩
  cases κ <;> cases armed <;> cases arm <;> rfl

theorem Blanking.update_armed (b : Blanking) (s : Snapshot) :
    (b.update s).1.armed = s.blanking.arm := by
  rcases b with ⟨armed⟩
  unfold Blanking.update
  generalize s.blanking = decision
  rcases decision with ⟨screenOn, arm⟩
  cases armed <;> cases arm <;> rfl

/-- Following a snapshot, the sensors are asked for the edges to the levels that it wants. -/
theorem Sensing.update_switches (sensing : Sensing) (s : Snapshot) (κ : Capability) :
    κ.switches (sensing.update s).2.commands =
      match κ with
      | .blanking => []
      | .proximity => edge sensing.callActive (Sensing.wanted s).callActive
      | .orientation => edge sensing.orientation (Sensing.wanted s).orientation := by
  rcases sensing with ⟨callActive, orientation⟩
  unfold Sensing.update
  generalize Sensing.wanted s = next
  rcases next with ⟨nextActive, nextOrientation⟩
  cases κ <;> cases callActive <;> cases orientation <;> cases nextActive <;>
    cases nextOrientation <;> rfl

theorem Sensing.shutdown_switches (sensing : Sensing) (κ : Capability) :
    κ.switches sensing.shutdown.2 =
      match κ with
      | .blanking => []
      | .proximity => edge sensing.callActive false
      | .orientation => edge sensing.orientation false := by
  rcases sensing with ⟨callActive, orientation⟩
  cases κ <;> cases callActive <;> cases orientation <;> rfl

theorem SpeakerSwitch.cancelCommands_switches (speaker : SpeakerSwitch) (κ : Capability) :
    κ.switches speaker.cancelCommands = [] := by
  rcases speaker with ⟨_ | owed⟩
  · rfl
  · cases κ <;> rfl

theorem SpeakerSwitch.read_switches (speaker : SpeakerSwitch) (reading : Proximity) (s : Snapshot)
    (settings : Settings) (now : Nat) (κ : Capability) :
    κ.switches (speaker.read reading s settings now).2 = [] := by
  unfold SpeakerSwitch.read
  rw [Capability.switches_append, speaker.cancelCommands_switches, List.nil_append]
  unfold SpeakerSwitch.response?
  cases reading <;> split_ifs <;> cases κ <;> rfl

namespace Controller

variable (c : Controller) (κ : Capability)

/-- Letting the sensors follow changes what they were asked for and possibly forgets the
orientation, nothing else. -/
theorem followSensing_fst (forget : Bool) : ∃ orientation : Orientation,
    (c.followSensing forget).1 =
      { c with
        sensing := Sensing.wanted c.snapshot
        snapshot := { c.snapshot with orientation } } := by
  unfold followSensing
  rcases update : c.sensing.update c.snapshot with ⟨sensing, change⟩
  have same : sensing = Sensing.wanted c.snapshot := (congrArg Prod.fst update).symm
  subst same
  cases forgets : change.callActive || forget
  · exact ⟨c.snapshot.orientation, by simp only [forgets, Bool.false_eq_true, if_false]⟩
  · exact ⟨.unknown, by simp only [forgets, if_true]; rfl⟩

theorem followSensing_tornDown (forget : Bool) :
    (c.followSensing forget).1.tornDown = c.tornDown := by
  obtain ⟨orientation, followed⟩ := c.followSensing_fst forget
  rw [followed]

/-- Letting the blanking follow changes only whether the trigger was asked to be armed. -/
theorem followBlanking_fst :
    c.followBlanking.1 = { c with blanking := ⟨c.snapshot.blanking.arm⟩ } := by
  have armed := c.blanking.update_armed c.snapshot
  unfold followBlanking
  rcases update : c.blanking.update c.snapshot with ⟨⟨_⟩, command⟩
  rw [update] at armed
  cases armed
  rfl

/-! ## The commands of a step -/

/-- On each capability the commands of an outcome are the edge between the levels asked for. -/
def Outcome.Edged (c : Controller) (outcome : Outcome) : Prop :=
  ∀ κ : Capability, κ.switches outcome.2 = edge (κ.asked c) (κ.asked outcome.1)

theorem followSensing_edged (forget : Bool) : (c.followSensing forget).Edged c := by
  intro κ
  obtain ⟨orientation, followed⟩ := c.followSensing_fst forget
  rw [followed]
  refine (c.sensing.update_switches c.snapshot κ).trans ?_
  cases κ
  case blanking => exact (edge_self _).symm
  all_goals rfl

theorem followBlanking_edged : c.followBlanking.Edged c := by
  intro κ
  refine (c.blanking.update_switches c.snapshot κ).trans ?_
  cases κ
  case blanking => rfl
  all_goals exact (edge_self _).symm

theorem followReading_asked (settings : Settings) (now : Nat) :
    κ.asked (c.followReading settings now).1 = κ.asked c := by
  cases κ <;> rfl

theorem followReading_edged (settings : Settings) (now : Nat) :
    (c.followReading settings now).Edged c := by
  intro κ
  rw [followReading_asked, edge_self]
  exact c.speaker.read_switches _ _ settings now κ

variable {c}

theorem Outcome.Edged.of_set {signal : Signal} {outcome : Outcome}
    (edged : outcome.Edged (c.set signal)) : outcome.Edged c := by
  intro κ
  have asked : κ.asked (c.set signal) = κ.asked c := by cases κ <;> rfl
  rw [edged κ, asked]

/-- Two steps, of which each leaves alone the capabilities that the other one switches. -/
theorem Outcome.Edged.andThen {outcome : Outcome} {step : Controller → Outcome}
    (first : outcome.Edged c) (second : (step outcome.1).Edged outcome.1)
    (apart : ∀ κ : Capability, κ.asked c = κ.asked outcome.1 ∨
      κ.asked outcome.1 = κ.asked (step outcome.1).1) :
    (outcome.andThen step).Edged c := by
  intro κ
  calc κ.switches (outcome.andThen step).2
      = κ.switches outcome.2 ++ κ.switches (step outcome.1).2 := κ.switches_append _ _
    _ = edge (κ.asked c) (κ.asked outcome.1) ++
          edge (κ.asked outcome.1) (κ.asked (step outcome.1).1) := by rw [first κ, second κ]
    _ = edge (κ.asked c) (κ.asked (step outcome.1).1) := edge_append (apart κ)

theorem followSensing_followBlanking_edged (forget : Bool) :
    ((c.followSensing forget).andThen followBlanking).Edged c := by
  refine (c.followSensing_edged forget).andThen (followBlanking_edged _) ?_
  intro κ
  obtain ⟨orientation, followed⟩ := c.followSensing_fst forget
  rw [followBlanking_fst, followed]
  cases κ
  case blanking => exact Or.inl rfl
  all_goals exact Or.inr rfl

theorem Outcome.Edged.andThen_followReading {outcome : Outcome} (first : outcome.Edged c)
    (settings : Settings) (now : Nat) :
    (outcome.andThen (followReading settings now)).Edged c :=
  first.andThen (followReading_edged _ settings now)
    fun κ => Or.inr (followReading_asked _ κ settings now).symm

/-- Whatever the event, its commands are the edges between the levels asked for. -/
theorem take_edged (c : Controller) (settings : Settings) (now : Nat) (event : Event) :
    (c.take settings now event).Edged c := by
  cases event with
  | callPhaseChanged phase =>
    have followed : (((c.set (.phase phase)).followSensing false).andThen followBlanking).Edged c :=
      (followSensing_followBlanking_edged false).of_set
    dsimp only [take]
    split
    · exact followed.andThen_followReading settings now
    · exact followed
  | audioRouteChanged route => exact (followBlanking_edged _).of_set
  | orientationChanged orientation =>
    dsimp only [take]
    split
    · exact (followBlanking_edged _).of_set
    · exact followBlanking_edged c
  | proximityRawSample distance maxRange =>
    have followed : ((followReading settings now (c.set (.proximity (.classify distance
        maxRange)))).andThen followBlanking).Edged (c.set (.proximity (.classify distance
        maxRange))) :=
      (followReading_edged _ settings now).andThen (followBlanking_edged _)
        fun κ => Or.inl (followReading_asked _ κ settings now).symm
    exact followed.of_set
  | displayStateChanged isOn => exact (followSensing_followBlanking_edged false).of_set
  | uiVisibilityChanged showing => exact (followBlanking_edged _).of_set
  | dialpadVisibilityChanged visible => exact (followBlanking_edged _).of_set
  | videoCallFlagsChanged attempting isVideo =>
    exact (followSensing_followBlanking_edged _).of_set

theorem handle_edged (c : Controller) (event : Event) (settings : Settings) (now : Nat) :
    (c.handle event settings now).Edged c := by
  unfold handle
  split
  · exact fun κ => (edge_self _).symm
  · exact c.take_edged settings now event

/-- The end of the call screen asks for the edges to off. -/
theorem teardown_edged (c : Controller) : c.teardown.Edged c := by
  intro κ
  unfold teardown
  split
  · exact (edge_self _).symm
  · dsimp only [SpeakerSwitch.cancel]
    rw [κ.switches_append, κ.switches_append, c.speaker.cancelCommands_switches,
      c.sensing.shutdown_switches, List.nil_append]
    rcases c with ⟨_, ⟨armed⟩, _, ⟨callActive, orientation⟩, _⟩
    cases κ
    case blanking => cases armed <;> rfl
    all_goals
      dsimp only [Blanking.release]
      cases armed <;> exact List.append_nil _

/-! ## The levels that the snapshot wants -/

/-- The sensors were asked for what the snapshot wants of them. -/
def Sensed (c : Controller) : Prop := c.sensing = Sensing.wanted c.snapshot

/-- Each capability was asked for the level that the snapshot wants, and once the call screen is
gone each was asked to be off. -/
def InStep (c : Controller) : Prop :=
  ∀ κ : Capability, κ.asked c = (!c.tornDown && κ.wanted c.snapshot)

theorem initial_inStep : initial.InStep := by
  intro κ
  cases κ <;> rfl

theorem InStep.sensed (inStep : c.InStep) (alive : c.tornDown = false) : c.Sensed := by
  have callActive := inStep .proximity
  have orientation := inStep .orientation
  rw [alive, Bool.not_false, Bool.true_and] at callActive orientation
  change c.sensing = ⟨c.snapshot.isOffHook, c.snapshot.isOffHook && c.snapshot.displayOn⟩
  rw [← show c.sensing.callActive = c.snapshot.isOffHook from callActive,
    ← show c.sensing.orientation = (c.sensing.callActive && c.snapshot.displayOn) by
      rw [show c.sensing.callActive = c.snapshot.isOffHook from callActive]
      exact orientation]

theorem followSensing_sensed (c : Controller) (forget : Bool) :
    (c.followSensing forget).1.Sensed := by
  obtain ⟨orientation, followed⟩ := c.followSensing_fst forget
  rw [followed]
  rfl

/-- Once the sensors are up to date, letting the blanking follow brings all levels up to date. -/
theorem Sensed.followBlanking_inStep (sensed : c.Sensed) (alive : c.tornDown = false) :
    c.followBlanking.1.InStep := by
  intro κ
  rw [followBlanking_fst]
  change _ = (!c.tornDown && _)
  rw [alive, Bool.not_false, Bool.true_and]
  unfold Sensed at sensed
  cases κ
  case blanking => rfl
  case proximity => exact congrArg Sensing.callActive sensed
  case orientation => exact congrArg Sensing.orientation sensed

theorem InStep.followReading (inStep : c.InStep) (settings : Settings) (now : Nat) :
    (c.followReading settings now).1.InStep := by
  intro κ
  rw [followReading_asked]
  exact inStep κ

/-- A signal other than the phase and the display leaves the sensors up to date. -/
theorem Sensed.set (sensed : c.Sensed) {signal : Signal}
    (apart : Sensing.wanted (c.snapshot.set signal) = Sensing.wanted c.snapshot) :
    (c.set signal).Sensed :=
  sensed.trans apart.symm

theorem wanted_set_ui (s : Snapshot) (visibility : Visibility) :
    Sensing.wanted (s.set (.ui visibility)) = Sensing.wanted s := by
  cases visibility with
  | showing => rfl
  | backgrounded =>
    dsimp only [Snapshot.set]
    split <;> rfl

/-- Taking up an event keeps the controller in step. -/
theorem take_inStep (inStep : c.InStep) (alive : c.tornDown = false) (settings : Settings)
    (now : Nat) (event : Event) : (c.take settings now event).1.InStep := by
  have sensed := inStep.sensed alive
  cases event with
  | callPhaseChanged phase =>
    have followed :
        (((c.set (.phase phase)).followSensing false).andThen followBlanking).1.InStep :=
      (followSensing_sensed _ false).followBlanking_inStep
        (((c.set (.phase phase)).followSensing_tornDown false).trans alive)
    dsimp only [take]
    split
    · exact followed.followReading settings now
    · exact followed
  | audioRouteChanged route => exact (sensed.set rfl).followBlanking_inStep alive
  | orientationChanged orientation =>
    dsimp only [take]
    split
    · exact (sensed.set rfl).followBlanking_inStep alive
    · exact sensed.followBlanking_inStep alive
  | proximityRawSample distance maxRange =>
    exact Sensed.followBlanking_inStep (sensed.set rfl) alive
  | displayStateChanged isOn =>
    exact (followSensing_sensed _ false).followBlanking_inStep
      (((c.set (.displayOn isOn)).followSensing_tornDown false).trans alive)
  | uiVisibilityChanged showing =>
    exact (sensed.set (wanted_set_ui _ _)).followBlanking_inStep alive
  | dialpadVisibilityChanged visible => exact (sensed.set rfl).followBlanking_inStep alive
  | videoCallFlagsChanged attempting isVideo =>
    exact (followSensing_sensed _ _).followBlanking_inStep
      (((c.set (.video ⟨attempting, isVideo⟩)).followSensing_tornDown _).trans alive)

theorem handle_inStep (inStep : c.InStep) (event : Event) (settings : Settings) (now : Nat) :
    (c.handle event settings now).1.InStep := by
  unfold handle
  split
  · exact inStep
  · next alive => exact take_inStep inStep (Bool.eq_false_iff.mpr alive) settings now event

theorem teardown_inStep (inStep : c.InStep) : c.teardown.1.InStep := by
  unfold teardown
  split
  · exact inStep
  · intro κ
    cases κ <;> rfl

/-! ## The end of the call screen -/

theorem take_tornDown (c : Controller) (settings : Settings) (now : Nat) (event : Event) :
    (c.take settings now event).1.tornDown = c.tornDown := by
  have followed : ∀ (c : Controller) (forget : Bool),
      ((c.followSensing forget).andThen followBlanking).1.tornDown = c.tornDown := by
    intro c forget
    change (c.followSensing forget).1.followBlanking.1.tornDown = _
    rw [followBlanking_fst]
    exact c.followSensing_tornDown forget
  cases event with
  | callPhaseChanged phase =>
    dsimp only [take]
    split <;> exact followed (c.set (.phase phase)) false
  | orientationChanged orientation =>
    dsimp only [take]
    split
    · rw [followBlanking_fst]
      rfl
    · rw [followBlanking_fst]
  | displayStateChanged isOn => exact followed (c.set (.displayOn isOn)) false
  | videoCallFlagsChanged attempting isVideo =>
    exact followed (c.set (.video ⟨attempting, isVideo⟩)) _
  | proximityRawSample distance maxRange =>
    change (followReading settings now _).1.followBlanking.1.tornDown = _
    rw [followBlanking_fst]
    rfl
  | _ =>
    dsimp only [take]
    rw [followBlanking_fst]
    rfl

theorem handle_tornDown (c : Controller) (event : Event) (settings : Settings) (now : Nat) :
    (c.handle event settings now).1.tornDown = c.tornDown := by
  unfold handle
  split
  · rfl
  · exact c.take_tornDown settings now event

theorem teardown_tornDown (c : Controller) : c.teardown.1.tornDown = true := by
  unfold teardown
  split
  · next gone => exact gone
  · rfl

end Controller

end InCallProximity
