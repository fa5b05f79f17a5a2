import InCallProximity.Proofs.RouteTimer.Tasks
import Mathlib.Data.List.Induction

/-!
# The slot of a timer

A `SlotTimer` does what a timer with a single slot has to do, and nothing is left of the tasks: a
schedule overwrites the slot, a cancellation empties it, and the timer rings when the task is polled
whose schedule the slot holds, after the deadline.

In every history no call comes before its deadline (`call_scheduled`), the calls come in the order
of their schedules, so none comes twice (`run_ordered`), and none comes for a schedule that was
cancelled or replaced (`run_later`).
-/

namespace InCallProximity

/-- A timer that only remembers what waits: tasks, tokens and generations are gone, and the last
schedule is known by its number. -/
structure SlotTimer where
  timer : RouteTimer
  /-- how many switches were scheduled; only the last one can wait -/
  scheduled : Nat
  clock : Nat
  calls : List RouterCall
deriving DecidableEq

namespace SlotTimer

/-- An empty slot at time zero; nothing was scheduled and no route was set. -/
def idle : SlotTimer := ⟨.idle, 0, 0, []⟩

/-- The slot holds the schedule with a number. -/
def Holds (a : SlotTimer) (number : Nat) : Prop :=
  a.timer.isPending = true ∧ number + 1 = a.scheduled

instance (a : SlotTimer) (number : Nat) : Decidable (a.Holds number) :=
  inferInstanceAs (Decidable (_ ∧ _))

/-- The switch that waits is due. -/
def Due (a : SlotTimer) : Prop := ∀ deadline ∈ a.timer.deadline?, deadline ≤ a.clock

instance (a : SlotTimer) : Decidable a.Due :=
  inferInstanceAs (Decidable (∀ deadline ∈ a.timer.deadline?, deadline ≤ a.clock))

/-- The timer rings for the schedule with a number. -/
def ring (a : SlotTimer) (number : Nat) : SlotTimer :=
  let (timer, route) := a.timer.ring
  { a with timer, calls := a.calls ++ route.toList.map (⟨a.clock, number, ·⟩) }

/-- One step. A poll makes the timer ring if the slot holds the schedule of the polled task, and it
is due. -/
def step (a : SlotTimer) : TimerAction → SlotTimer
  | .schedule target delay =>
    { a with timer := a.timer.schedule a.clock target delay, scheduled := a.scheduled + 1 }
  | .cancel => { a with timer := a.timer.cancel }
  | .advance span => { a with clock := a.clock + span }
  | .poll number _ => if a.Holds number ∧ a.Due then a.ring number else a

/-- Takes actions in order. -/
def run (a : SlotTimer) (history : List TimerAction) : SlotTimer := history.foldl step a

theorem run_concat (a : SlotTimer) (history : List TimerAction) (last : TimerAction) :
    a.run (history ++ [last]) = (a.run history).step last :=
  List.foldl_append

theorem ring_of_waiting {a : SlotTimer} {waiting : WaitingSwitch}
    (waits : a.timer.waiting = some waiting) (number : Nat) :
    a.ring number =
      { a with timer := .idle, calls := a.calls ++ [⟨a.clock, number, waiting.target⟩] } := by
  unfold ring RouteTimer.ring
  rw [waits]
  rfl

/-- A poll does nothing, or the timer rings for the polled task. -/
theorem poll_cases (a : SlotTimer) (number : Nat) (deadlineFirst : Bool) :
    a.step (.poll number deadlineFirst) = a ∨
      ∃ waiting, a.timer.waiting = some waiting ∧ number + 1 = a.scheduled ∧
        waiting.deadline ≤ a.clock ∧
        a.step (.poll number deadlineFirst) =
          { a with timer := .idle, calls := a.calls ++ [⟨a.clock, number, waiting.target⟩] } := by
  unfold step
  dsimp only
  split
  · next rings =>
    obtain ⟨⟨pending, last⟩, due⟩ := rings
    obtain ⟨waiting, waits⟩ := Option.isSome_iff_exists.mp pending
    refine Or.inr ⟨waiting, waits, last, due _ ?_, ring_of_waiting waits number⟩
    exact Option.mem_map_of_mem _ waits
  · exact Or.inl rfl

/-- In a history a switch was scheduled under a number, for a deadline. -/
def Scheduled (history : List TimerAction) (number : Nat) (switch : WaitingSwitch) : Prop :=
  ∃ before delay after, history = before ++ .schedule switch.target delay :: after ∧
    (idle.run before).scheduled = number ∧
    switch.deadline = (idle.run before).clock + delay.toNat

theorem Scheduled.append {history : List TimerAction} {number : Nat} {switch : WaitingSwitch}
    (scheduled : Scheduled history number switch) (more : List TimerAction) :
    Scheduled (history ++ more) number switch := by
  obtain ⟨before, delay, after, rfl, there⟩ := scheduled
  refine ⟨before, delay, after ++ more, ?_, there⟩
  rw [List.append_assoc, List.cons_append]

/-- What waits is the last schedule. -/
theorem waiting_scheduled {history : List TimerAction} {waiting : WaitingSwitch}
    (waits : (idle.run history).timer.waiting = some waiting) :
    ∃ number, number + 1 = (idle.run history).scheduled ∧ Scheduled history number waiting := by
  induction history using List.reverseRecOn with
  | nil => cases waits
  | append_singleton before last ih =>
    rw [run_concat] at waits ⊢
    cases last with
    | schedule target delay =>
      cases waits
      exact ⟨_, rfl, before, delay, [], rfl, rfl, rfl⟩
    | cancel => cases waits
    | advance span =>
      obtain ⟨number, last, scheduled⟩ := ih waits
      exact ⟨number, last, scheduled.append _⟩
    | poll number deadlineFirst =>
      rcases (idle.run before).poll_cases number deadlineFirst with same | ⟨_, -, -, -, rung⟩
      · rw [same] at waits ⊢
        obtain ⟨number, last, scheduled⟩ := ih waits
        exact ⟨number, last, scheduled.append _⟩
      · rw [rung] at waits
        cases waits

/-- Every call was scheduled, and does not come before its deadline. -/
theorem call_scheduled {history : List TimerAction} {call : RouterCall}
    (made : call ∈ (idle.run history).calls) :
    ∃ deadline, Scheduled history call.task ⟨call.route, deadline⟩ ∧ deadline ≤ call.time := by
  induction history using List.reverseRecOn with
  | nil => cases made
  | append_singleton before last ih =>
    have older (there : call ∈ (idle.run before).calls) :
        ∃ deadline, Scheduled (before ++ [last]) call.task ⟨call.route, deadline⟩ ∧
          deadline ≤ call.time := by
      obtain ⟨deadline, scheduled, late⟩ := ih there
      exact ⟨deadline, scheduled.append _, late⟩
    rw [run_concat] at made
    cases last with
    | poll number deadlineFirst =>
      rcases (idle.run before).poll_cases number deadlineFirst with
        same | ⟨waiting, waits, last, due, rung⟩
      · rw [same] at made
        exact older made
      · rw [rung] at made
        rcases List.mem_append.mp made with there | here
        · exact older there
        · obtain rfl := List.mem_singleton.mp here
          obtain ⟨numberToo, lastToo, scheduled⟩ := waiting_scheduled waits
          obtain rfl : numberToo = number := by omega
          exact ⟨waiting.deadline, scheduled.append _, due⟩
    | _ => exact older made

/-- The calls made so far are in the order of their schedules, and what waits comes after them. -/
structure Ordered (a : SlotTimer) : Prop where
  increasing : (a.calls.map RouterCall.task).Pairwise (· < ·)
  past : ∀ call ∈ a.calls, call.task < a.scheduled
  ahead : a.timer.isPending = true → ∀ call ∈ a.calls, call.task + 1 < a.scheduled

theorem Ordered.step {a : SlotTimer} (ordered : a.Ordered) (action : TimerAction) :
    (a.step action).Ordered := by
  cases action with
  | schedule target delay =>
    refine ⟨ordered.increasing, ?_, ?_⟩
    · exact fun call made => Nat.lt_succ_of_lt (ordered.past call made)
    · exact fun _ call made => Nat.succ_lt_succ (ordered.past call made)
  | cancel => exact ⟨ordered.increasing, ordered.past, nofun⟩
  | advance span => exact ⟨ordered.increasing, ordered.past, ordered.ahead⟩
  | poll number deadlineFirst =>
    rcases a.poll_cases number deadlineFirst with same | ⟨waiting, waits, last, -, rung⟩
    · rw [same]
      exact ordered
    · rw [rung]
      have ahead := ordered.ahead (Option.isSome_of_eq_some waits)
      refine ⟨?_, ?_, nofun⟩
      · rw [List.map_append]
        refine List.pairwise_append.mpr ⟨ordered.increasing, List.pairwise_singleton .., ?_⟩
        intro task member other here
        obtain ⟨call, made, rfl⟩ := List.mem_map.mp member
        obtain rfl : other = number := List.mem_singleton.mp here
        have before := ahead call made
        omega
      · intro call made
        rcases List.mem_append.mp made with there | here
        · exact ordered.past call there
        · obtain rfl := List.mem_singleton.mp here
          exact Nat.lt_of_succ_le (Nat.le_of_eq last)

theorem run_ordered (history : List TimerAction) : (idle.run history).Ordered := by
  induction history using List.reverseRecOn with
  | nil => exact ⟨List.Pairwise.nil, nofun, nofun⟩
  | append_singleton before last ih =>
    rw [run_concat]
    exact ih.step last

/-- While nothing waits that was scheduled before a number, no call comes for such a schedule. -/
theorem run_later {a : SlotTimer} {number : Nat} (few : number ≤ a.scheduled)
    (newer : a.timer.isPending = true → number < a.scheduled) (history : List TimerAction) :
    ∃ later, (a.run history).calls = a.calls ++ later ∧ ∀ call ∈ later, number ≤ call.task := by
  induction history generalizing a with
  | nil => exact ⟨[], (List.append_nil _).symm, nofun⟩
  | cons next rest ih =>
    change ∃ later, ((a.step next).run rest).calls = a.calls ++ later ∧ _
    cases next with
    | schedule target delay =>
      exact ih (a := a.step (.schedule target delay)) (Nat.le_succ_of_le few)
        fun _ => Nat.lt_succ_of_le few
    | cancel => exact ih (a := a.step .cancel) few nofun
    | advance span => exact ih (a := a.step (.advance span)) few newer
    | poll polled deadlineFirst =>
      rcases a.poll_cases polled deadlineFirst with same | ⟨waiting, waits, last, -, rung⟩
      · rw [same]
        exact ih few newer
      · have young := newer (Option.isSome_of_eq_some waits)
        obtain ⟨later, calls, late⟩ := ih (a := a.step (.poll polled deadlineFirst))
          (by rw [rung]; exact few) (by rw [rung]; nofun)
        rw [rung] at calls ⊢
        refine ⟨⟨a.clock, polled, waiting.target⟩ :: later, ?_, ?_⟩
        · rw [calls, List.append_assoc, List.singleton_append]
        · intro call made
          rcases List.mem_cons.mp made with rfl | made
          · change number ≤ polled
            omega
          · exact late call made

end SlotTimer

end InCallProximity
