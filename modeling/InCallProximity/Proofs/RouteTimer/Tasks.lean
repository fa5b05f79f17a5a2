import InCallProximity.RouteTimer

/-!
# The timer as tasks

Behind a `RouteTimer` stand tasks that run on their own. Scheduling spawns a task, which sleeps
until its deadline and watches a token of its own; the slot, under a lock, holds the token of the
last schedule and a generation that every schedule and every cancellation raises. A task polled
after its deadline may wake up, also if its token is cancelled by then; it sets the route only if
the slot, under the lock, still has the generation that the task was spawned with.

`TimerTasks.step` is one step of any of the parties, and a history is any list of actions. Which of
two ready branches a poll takes is part of the action. Between the choice of a branch and the lock
others may run; that is the poll in which the lock is taken, at a later place in the history.
-/

namespace InCallProximity

/-- A task that was spawned and has not ended. -/
structure TimerTask where
  /-- tasks are numbered as they are spawned; the task watches the token of this number -/
  number : Nat
  generation : UInt64
  target : AudioRoute
  deadline : Nat
deriving DecidableEq

/-- What the lock guards. -/
structure TimerSlot where
  generation : UInt64
  /-- the token of the last schedule, unless it was cancelled or its task has set the route -/
  token : Option Nat
deriving DecidableEq

/-- A call that set the route, with its time and the task that made it. -/
structure RouterCall where
  time : Nat
  task : Nat
  route : AudioRoute
deriving DecidableEq

/-- What a party does. -/
inductive TimerAction where
  | schedule (target : AudioRoute) (delay : UInt64)
  | cancel
  /-- time passes, in milliseconds -/
  | advance (span : Nat)
  /-- a task is polled, and looks at its deadline first or at its token -/
  | poll (number : Nat) (deadlineFirst : Bool)
deriving DecidableEq

/-- Scheduling and cancelling raise the generation. -/
def TimerAction.raises : TimerAction → Bool
  | .schedule _ _ | .cancel => true
  | .advance _ | .poll _ _ => false

/-- How often a history raises the generation. -/
def TimerAction.raised (history : List TimerAction) : Nat := history.countP raises

/-! ## Tasks -/

/-- The slot, the clock, and all tasks. -/
structure TimerTasks where
  slot : TimerSlot
  clock : Nat
  /-- how many tasks were spawned -/
  spawned : Nat
  /-- the tasks that have not ended -/
  live : List TimerTask
  /-- the numbers of the tokens that were cancelled -/
  cancelled : List Nat
  /-- in the order in which they were made -/
  calls : List RouterCall
deriving DecidableEq

namespace TimerTasks

/-- An empty slot of generation zero, and no task. -/
def idle : TimerTasks := ⟨⟨0, none⟩, 0, 0, [], [], []⟩

/-- The slot holds the token of a task. -/
def isPending (s : TimerTasks) : Bool := s.slot.token.isSome

/-- Spawns a task for a switch, in place of the one that the slot holds. -/
def schedule (s : TimerTasks) (target : AudioRoute) (delay : UInt64) : TimerTasks :=
  let generation := s.slot.generation + 1
  { s with
    slot := ⟨generation, some s.spawned⟩
    spawned := s.spawned + 1
    live := s.live ++ [⟨s.spawned, generation, target, s.clock + delay.toNat⟩]
    cancelled := s.slot.token.toList ++ s.cancelled }

/-- Cancels the token that the slot holds; true if it holds one. -/
def cancel (s : TimerTasks) : TimerTasks × Bool :=
  ({ s with
      slot := ⟨s.slot.generation + 1, none⟩
      cancelled := s.slot.token.toList ++ s.cancelled },
    s.isPending)

/-- A task ends. -/
def finish (s : TimerTasks) (task : TimerTask) : TimerTasks :=
  { s with live := s.live.filter (·.number ≠ task.number) }

/-- A task wakes up and takes the lock: it sets the route if the slot still has its generation. -/
def wake (s : TimerTasks) (task : TimerTask) : TimerTasks :=
  if s.slot.generation ≠ task.generation then s.finish task
  else
    { s.finish task with
      slot := { s.slot with token := none }
      calls := s.calls ++ [⟨s.clock, task.number, task.target⟩] }

/-- A task is polled. It wakes up if its deadline is over, and ends if its token is cancelled; if
both hold, the one that it looks at first decides. -/
def poll (s : TimerTasks) (task : TimerTask) (deadlineFirst : Bool) : TimerTasks :=
  if task.deadline ≤ s.clock ∧ (deadlineFirst = true ∨ task.number ∉ s.cancelled) then s.wake task
  else if task.number ∈ s.cancelled then s.finish task
  else s

/-- One step. Polling a task that has ended does nothing. -/
def step (s : TimerTasks) : TimerAction → TimerTasks
  | .schedule target delay => s.schedule target delay
  | .cancel => s.cancel.1
  | .advance span => { s with clock := s.clock + span }
  | .poll number deadlineFirst =>
    match s.live.find? (·.number = number) with
    | some task => s.poll task deadlineFirst
    | none => s

/-- Takes actions in order. -/
def run (s : TimerTasks) (history : List TimerAction) : TimerTasks := history.foldl step s

end TimerTasks

end InCallProximity
