import InCallProximity.Proofs.RouteTimer.Slot

/-!
# The tasks behind a timer refine its slot

Whatever the order in which tasks are scheduled, cancelled and polled, only one of them can set the
route: the one whose schedule the slot still holds. Cancelled and replaced tasks may live on, and
may wake up; what stops them is the generation (`Simulates.current`). As long as the generation does
not overflow, every step of the tasks is the same step of the slot alone (`Simulates.step`).

So what holds of the slot alone holds of the tasks, too (`tasks_refine_slot`).
-/

namespace InCallProximity

/-! ## The simulation -/

/-- The tasks do what the slot alone does. Of the tasks that have not ended, only the one whose
schedule the slot holds has its generation; it is there as long as the slot holds its schedule, and
its token is not cancelled. -/
structure Simulates (s : TimerTasks) (a : SlotTimer) : Prop where
  clock : s.clock = a.clock
  calls : s.calls = a.calls
  spawned : s.spawned = a.scheduled
  pending : s.isPending = a.timer.isPending
  token : ∀ number ∈ s.slot.token, number + 1 = a.scheduled
  live : ∀ task ∈ s.live, task.number < s.spawned
  older : ∀ task ∈ s.live, task.generation.toNat ≤ s.slot.generation.toNat
  current : ∀ task ∈ s.live, task.generation = s.slot.generation ↔ a.Holds task.number
  waiting : ∀ task ∈ s.live, a.Holds task.number →
    a.timer.waiting = some ⟨task.target, task.deadline⟩
  cancelled : ∀ number ∈ s.cancelled, number < s.spawned ∧ ¬ a.Holds number
  held : a.timer.isPending = true → ∃ task ∈ s.live, a.Holds task.number

theorem Simulates.idle : Simulates .idle .idle where
  clock := rfl
  calls := rfl
  spawned := rfl
  pending := rfl
  token := nofun
  live := nofun
  older := nofun
  current := nofun
  waiting := nofun
  cancelled := nofun
  held := nofun

theorem raise_toNat {generation : UInt64} (room : generation.toNat + 1 < UInt64.size) :
    (generation + 1).toNat = generation.toNat + 1 := by
  rw [UInt64.toNat_add]
  exact Nat.mod_eq_of_lt room

variable {s : TimerTasks} {a : SlotTimer}

/-- A raised generation is that of no task that was spawned before. -/
theorem Simulates.generation_ne (simulates : Simulates s a)
    (room : s.slot.generation.toNat + 1 < UInt64.size) {task : TimerTask} (lives : task ∈ s.live) :
    task.generation ≠ s.slot.generation + 1 := by
  intro same
  have older := simulates.older task lives
  rw [same, raise_toNat room] at older
  omega

/-- Of the tokens that are cancelled, the slot held at most the last schedule's. -/
theorem Simulates.cancelled_lt (simulates : Simulates s a) {number : Nat}
    (cancelled : number ∈ s.slot.token.toList ++ s.cancelled) : number < s.spawned := by
  rcases List.mem_append.mp cancelled with held | before
  · have last := simulates.token number (Option.mem_toList.mp held)
    rw [simulates.spawned]
    omega
  · exact (simulates.cancelled number before).1

theorem Simulates.schedule (simulates : Simulates s a)
    (room : s.slot.generation.toNat + 1 < UInt64.size) (target : AudioRoute) (delay : UInt64) :
    Simulates (s.step (.schedule target delay)) (a.step (.schedule target delay)) := by
  have spawned := simulates.spawned
  -- the slot now holds the schedule of the new task, and no other
  have holds (number : Nat) :
      (a.step (.schedule target delay)).Holds number ↔ number = s.spawned := by
    change (true = true ∧ number + 1 = a.scheduled + 1) ↔ _
    rw [and_iff_right rfl, spawned]
    exact Nat.succ_inj
  have cases {task : TimerTask} (lives : task ∈ (s.step (.schedule target delay)).live) :
      task ∈ s.live ∨ task =
        ⟨s.spawned, s.slot.generation + 1, target, s.clock + delay.toNat⟩ := by
    rwa [← List.mem_singleton, ← List.mem_append]
  constructor
  case clock => exact simulates.clock
  case calls => exact simulates.calls
  case spawned => exact congrArg (· + 1) spawned
  case pending => rfl
  case token =>
    intro number member
    obtain rfl : s.spawned = number := Option.some.inj member
    exact congrArg (· + 1) spawned
  case live =>
    intro task lives
    rcases cases lives with old | rfl
    · exact Nat.lt_succ_of_lt (simulates.live task old)
    · exact Nat.lt_succ_self _
  case older =>
    intro task lives
    change _ ≤ (s.slot.generation + 1).toNat
    rcases cases lives with old | rfl
    · rw [raise_toNat room]
      exact Nat.le_succ_of_le (simulates.older task old)
    · exact Nat.le_refl _
  case current =>
    intro task lives
    rw [holds]
    rcases cases lives with old | rfl
    · have young := simulates.live task old
      exact iff_of_false (simulates.generation_ne room old) (by omega)
    · exact iff_of_true rfl rfl
  case waiting =>
    intro task lives held
    rw [holds] at held
    rcases cases lives with old | rfl
    · have young := simulates.live task old
      omega
    · rw [simulates.clock]
      rfl
  case cancelled =>
    intro number cancelled
    have young := simulates.cancelled_lt cancelled
    rw [holds]
    exact ⟨Nat.lt_succ_of_lt young, by omega⟩
  case held =>
    intro _
    exact ⟨_, List.mem_append_right _ (List.mem_singleton_self _), (holds _).mpr rfl⟩

theorem Simulates.cancel (simulates : Simulates s a)
    (room : s.slot.generation.toNat + 1 < UInt64.size) :
    Simulates (s.step .cancel) (a.step .cancel) := by
  have holds (number : Nat) : ¬ (a.step .cancel).Holds number := fun held => nomatch held.1
  constructor
  case clock => exact simulates.clock
  case calls => exact simulates.calls
  case spawned => exact simulates.spawned
  case pending => rfl
  case token => nofun
  case live => exact simulates.live
  case older =>
    intro task lives
    change _ ≤ (s.slot.generation + 1).toNat
    rw [raise_toNat room]
    exact Nat.le_succ_of_le (simulates.older task lives)
  case current =>
    intro task lives
    exact iff_of_false (simulates.generation_ne room lives) (holds _)
  case waiting =>
    intro task _ held
    exact absurd held (holds _)
  case cancelled =>
    intro number cancelled
    exact ⟨simulates.cancelled_lt cancelled, holds number⟩
  case held => nofun

theorem Simulates.advance (simulates : Simulates s a) (span : Nat) :
    Simulates (s.step (.advance span)) (a.step (.advance span)) :=
  { simulates with clock := congrArg (· + span) simulates.clock }

/-- A task that the slot does not hold can end. -/
theorem Simulates.finish (simulates : Simulates s a) {task : TimerTask}
    (free : ¬ a.Holds task.number) : Simulates (s.finish task) a := by
  have lived {other : TimerTask} (lives : other ∈ (s.finish task).live) : other ∈ s.live :=
    (List.mem_filter.mp lives).1
  refine { simulates with live := ?_, older := ?_, current := ?_, waiting := ?_, held := ?_ }
  · exact fun other lives => simulates.live other (lived lives)
  · exact fun other lives => simulates.older other (lived lives)
  · exact fun other lives => simulates.current other (lived lives)
  · exact fun other lives => simulates.waiting other (lived lives)
  · intro pending
    obtain ⟨other, lives, holds⟩ := simulates.held pending
    refine ⟨other, List.mem_filter.mpr ⟨lives, decide_eq_true ?_⟩, holds⟩
    intro same
    exact free (same ▸ holds)

/-! ## Waking up -/

/-- A task that the slot does not hold wakes up only to end. -/
theorem Simulates.wake_of_free (simulates : Simulates s a) {task : TimerTask}
    (lives : task ∈ s.live) (free : ¬ a.Holds task.number) : s.wake task = s.finish task := by
  refine if_pos ?_
  intro same
  exact free ((simulates.current task lives).mp same.symm)

/-- The task that the slot holds sets the route. -/
theorem Simulates.wake_of_holds (simulates : Simulates s a) {task : TimerTask}
    (lives : task ∈ s.live) (holds : a.Holds task.number) :
    s.wake task =
      { s.finish task with
        slot := { s.slot with token := none }
        calls := s.calls ++ [⟨s.clock, task.number, task.target⟩] } := by
  refine if_neg ?_
  intro differs
  exact differs ((simulates.current task lives).mpr holds).symm

theorem Simulates.wake (simulates : Simulates s a) {task : TimerTask} (lives : task ∈ s.live)
    (holds : a.Holds task.number) : Simulates (s.wake task) (a.ring task.number) := by
  rw [simulates.wake_of_holds lives holds,
    SlotTimer.ring_of_waiting (simulates.waiting task lives holds)]
  have lived {other : TimerTask} (lives : other ∈ (s.finish task).live) :
      other ∈ s.live ∧ other.number ≠ task.number := by
    obtain ⟨lives, differs⟩ := List.mem_filter.mp lives
    exact ⟨lives, of_decide_eq_true differs⟩
  have free (number : Nat) (timer : RouteTimer) (idle : timer = .idle)
      (calls : List RouterCall) : ¬ SlotTimer.Holds { a with timer, calls } number := by
    rintro ⟨pending, -⟩
    rw [idle] at pending
    cases pending
  constructor
  case clock => exact simulates.clock
  case calls => rw [← simulates.calls, ← simulates.clock]
  case spawned => exact simulates.spawned
  case pending => rfl
  case token => nofun
  case live => exact fun other lives => simulates.live other (lived lives).1
  case older => exact fun other lives => simulates.older other (lived lives).1
  case current =>
    intro other lives
    obtain ⟨lives, differs⟩ := lived lives
    refine iff_of_false ?_ (free _ _ rfl _)
    intro same
    -- no other task has the generation of the slot
    have last := ((simulates.current other lives).mp same).2
    have lastToo := holds.2
    omega
  case waiting =>
    intro other _ held
    exact absurd held (free _ _ rfl _)
  case cancelled =>
    intro number cancelled
    exact ⟨(simulates.cancelled number cancelled).1, free _ _ rfl _⟩
  case held => nofun

/-- A poll of the task that the slot holds is decided by its deadline alone: its token is not
cancelled. -/
theorem Simulates.poll_of_holds (simulates : Simulates s a) {task : TimerTask}
    (holds : a.Holds task.number) (deadlineFirst : Bool) :
    s.poll task deadlineFirst = if task.deadline ≤ s.clock then s.wake task else s := by
  have uncancelled : task.number ∉ s.cancelled :=
    fun cancelled => (simulates.cancelled _ cancelled).2 holds
  unfold TimerTasks.poll
  rw [if_neg uncancelled]
  simp only [uncancelled, not_false_eq_true, or_true, and_true]

/-- A task that the slot does not hold ends, or goes on sleeping. -/
theorem Simulates.poll_of_free (simulates : Simulates s a) {task : TimerTask}
    (lives : task ∈ s.live) (free : ¬ a.Holds task.number) (deadlineFirst : Bool) :
    s.poll task deadlineFirst = s.finish task ∨ s.poll task deadlineFirst = s := by
  unfold TimerTasks.poll
  split
  · exact Or.inl (simulates.wake_of_free lives free)
  · split
    · exact Or.inl rfl
    · exact Or.inr rfl

theorem Simulates.due_iff (simulates : Simulates s a) {task : TimerTask} (lives : task ∈ s.live)
    (holds : a.Holds task.number) : a.Due ↔ task.deadline ≤ s.clock := by
  unfold SlotTimer.Due RouteTimer.deadline?
  rw [simulates.waiting task lives holds, simulates.clock]
  constructor
  · exact fun due => due _ rfl
  · rintro due _ ⟨⟩
    exact due

theorem Simulates.poll (simulates : Simulates s a) (number : Nat) (deadlineFirst : Bool) :
    Simulates (s.step (.poll number deadlineFirst)) (a.step (.poll number deadlineFirst)) := by
  unfold TimerTasks.step SlotTimer.step
  dsimp only
  cases found : s.live.find? (·.number = number) with
  | none =>
    rw [if_neg]
    · exact simulates
    · rintro ⟨holds, -⟩
      obtain ⟨task, lives, holdsToo⟩ := simulates.held holds.1
      have differs := List.find?_eq_none.mp found task lives
      have last := holds.2
      have lastToo := holdsToo.2
      exact differs (decide_eq_true (by omega))
  | some task =>
    have lives := List.mem_of_find?_eq_some found
    have same := List.find?_some found
    obtain rfl : task.number = number := of_decide_eq_true same
    dsimp only
    by_cases holds : a.Holds task.number
    · have dueToo := simulates.due_iff lives holds
      rw [simulates.poll_of_holds holds]
      by_cases due : task.deadline ≤ s.clock
      · rw [if_pos due, if_pos ⟨holds, dueToo.mpr due⟩]
        exact simulates.wake lives holds
      · rw [if_neg due, if_neg fun both => due (dueToo.mp both.2)]
        exact simulates
    · rw [if_neg fun both => holds both.1]
      rcases simulates.poll_of_free lives holds deadlineFirst with ends | sleeps
      · rw [ends]
        exact simulates.finish holds
      · rw [sleeps]
        exact simulates

/-! ## Histories -/

theorem Simulates.step (simulates : Simulates s a) {action : TimerAction}
    (room : action.raises = true → s.slot.generation.toNat + 1 < UInt64.size) :
    Simulates (s.step action) (a.step action) := by
  cases action with
  | schedule target delay => exact simulates.schedule (room rfl) target delay
  | cancel => exact simulates.cancel (room rfl)
  | advance span => exact simulates.advance span
  | poll number deadlineFirst => exact simulates.poll number deadlineFirst

theorem TimerTasks.wake_generation (s : TimerTasks) (task : TimerTask) :
    (s.wake task).slot.generation = s.slot.generation := by
  unfold wake
  split <;> rfl

theorem TimerTasks.step_generation (s : TimerTasks) (action : TimerAction) :
    (s.step action).slot.generation =
      if action.raises then s.slot.generation + 1 else s.slot.generation := by
  cases action with
  | poll number deadlineFirst =>
    unfold step
    dsimp only
    split
    · next task found =>
      unfold poll
      split
      · exact s.wake_generation task
      · split <;> rfl
    · rfl
  | _ => rfl

theorem TimerTasks.run_concat (s : TimerTasks) (history : List TimerAction) (last : TimerAction) :
    s.run (history ++ [last]) = (s.run history).step last :=
  List.foldl_append

/-- As long as the generation does not overflow, it counts what raises it, and the tasks do what the
slot alone does. -/
theorem run_simulates {history : List TimerAction}
    (few : TimerAction.raised history < UInt64.size) :
    (TimerTasks.idle.run history).slot.generation.toNat = TimerAction.raised history ∧
      Simulates (TimerTasks.idle.run history) (SlotTimer.idle.run history) := by
  induction history using List.reverseRecOn with
  | nil => exact ⟨rfl, Simulates.idle⟩
  | append_singleton before last ih =>
    have count : TimerAction.raised (before ++ [last]) =
        TimerAction.raised before + if last.raises then 1 else 0 := by
      unfold TimerAction.raised
      rw [List.countP_append, List.countP_singleton]
    rw [count] at few ⊢
    obtain ⟨generation, simulates⟩ := ih (by omega)
    rw [TimerTasks.run_concat, SlotTimer.run_concat]
    refine ⟨?_, ?_⟩
    · rw [TimerTasks.step_generation]
      cases raises : last.raises with
      | true =>
        rw [raises, if_pos rfl] at few
        rw [if_pos rfl, if_pos rfl, raise_toNat (by omega), generation]
      | false =>
        rw [if_neg Bool.false_ne_true, if_neg Bool.false_ne_true, generation]
        rfl
    · refine simulates.step ?_
      intro raises
      rw [raises, if_pos rfl] at few
      rwa [generation]

/-- A history that raises the generation no more often than another one that it begins. -/
theorem raised_append_le (before after : List TimerAction) :
    TimerAction.raised before ≤ TimerAction.raised (before ++ after) := by
  unfold TimerAction.raised
  rw [List.countP_append]
  exact Nat.le_add_right _ _

/-- **The tasks refine the slot.** In every history in which the generation does not overflow:

* time, calls, whether a switch waits, and what a cancellation returns are those of the slot alone;
* a task that wakes up sets the route if the slot holds its schedule, which then is the switch that
  waits, and leaves the slot empty; if not, it changes nothing but that it ends;
* as long as the slot holds a schedule, its task has not ended, and its token is not cancelled;
* every call was scheduled, and does not come before its deadline;
* the calls come in the order of their schedules, so none comes twice;
* once a schedule or a cancellation is over, no call comes for a schedule before it. -/
theorem tasks_refine_slot (history : List TimerAction)
    (few : TimerAction.raised history < UInt64.size) :
    let tasks := fun history => TimerTasks.idle.run history
    let s := tasks history
    let a := SlotTimer.idle.run history
    (s.clock = a.clock ∧ s.calls = a.calls ∧ s.isPending = a.timer.isPending ∧
        s.cancel.2 = a.timer.isPending) ∧
      (∀ task ∈ s.live,
        (a.Holds task.number →
          a.timer.waiting = some ⟨task.target, task.deadline⟩ ∧
            (s.wake task).calls = s.calls ++ [⟨s.clock, task.number, task.target⟩] ∧
            (s.wake task).isPending = false) ∧
          (¬ a.Holds task.number → s.wake task = s.finish task)) ∧
      (a.timer.isPending = true →
        ∃ task ∈ s.live, a.Holds task.number ∧ task.number ∉ s.cancelled) ∧
      (∀ call ∈ s.calls, ∃ before delay after,
        history = before ++ .schedule call.route delay :: after ∧
          (tasks before).spawned = call.task ∧
          (tasks before).clock + delay.toNat ≤ call.time) ∧
      (s.calls.map RouterCall.task).Pairwise (· < ·) ∧
      ∀ before next after, history = before ++ next :: after → next.raises = true →
        ∃ later, s.calls = (tasks before).calls ++ later ∧
          ∀ call ∈ later, (tasks before).spawned ≤ call.task := by
  intro tasks s a
  have simulates : Simulates s a := (run_simulates few).2
  -- the simulation holds at every earlier point of the history, too
  have earlier {before after : List TimerAction} (split : history = before ++ after) :
      Simulates (tasks before) (SlotTimer.idle.run before) := by
    refine (run_simulates ?_).2
    have le := raised_append_le before after
    rw [← split] at le
    omega
  refine ⟨?_, ?_, ?_, ?_, ?_, ?_⟩
  · exact ⟨simulates.clock, simulates.calls, simulates.pending, simulates.pending⟩
  · intro task lives
    refine ⟨?_, simulates.wake_of_free lives⟩
    intro holds
    refine ⟨simulates.waiting task lives holds, ?_, ?_⟩
    · rw [simulates.wake_of_holds lives holds]
    · rw [simulates.wake_of_holds lives holds]
      rfl
  · intro pending
    obtain ⟨task, lives, holds⟩ := simulates.held pending
    exact ⟨task, lives, holds, fun cancelled => (simulates.cancelled _ cancelled).2 holds⟩
  · intro call made
    rw [simulates.calls] at made
    obtain ⟨deadline, ⟨before, delay, after, split, number, due⟩, late⟩ :=
      SlotTimer.call_scheduled made
    have there := earlier split
    refine ⟨before, delay, after, split, ?_, ?_⟩
    · rw [there.spawned, number]
    · rw [there.clock, ← due]
      exact late
  · rw [simulates.calls]
    exact (SlotTimer.run_ordered history).increasing
  · intro before next after split raises
    have there := earlier split
    have run : a = ((SlotTimer.idle.run before).step next).run after := by
      change SlotTimer.idle.run history = _
      rw [split]
      exact List.foldl_append
    rw [simulates.calls, there.calls, there.spawned, run]
    cases next with
    | schedule target delay =>
      exact SlotTimer.run_later (a := (SlotTimer.idle.run before).step (.schedule target delay))
        (Nat.le_succ _) (fun _ => Nat.lt_succ_self _) after
    | cancel =>
      exact SlotTimer.run_later (a := (SlotTimer.idle.run before).step .cancel)
        (Nat.le_refl _) nofun after
    | advance span => cases raises
    | poll number deadlineFirst => cases raises

/-- Two switches are scheduled, and the task of the first one still wakes up: only the second one
sets the route. -/
theorem replaced_task_sets_no_route :
    let history : List TimerAction :=
      [.schedule .speaker 5, .advance 3, .schedule .earpiece 4, .advance 4, .poll 0 true,
        .poll 1 false, .cancel]
    TimerAction.raised history < UInt64.size ∧
      (TimerTasks.idle.run history).calls = (SlotTimer.idle.run history).calls ∧
      (TimerTasks.idle.run history).calls = [⟨7, 1, .earpiece⟩] := by
  intro history
  have few : TimerAction.raised history < UInt64.size := by decide
  exact ⟨few, (tasks_refine_slot history few).1.2.1, by decide⟩

end InCallProximity
