import InCallProximity.CommandSink

/-!
# Command logs

A `CommandLog` only remembers the commands that it takes. It can be made to lose one of them.
-/

namespace InCallProximity

/-- The commands that were taken, and how many more it takes until one is lost. -/
structure CommandLog where
  /-- in the order in which they were taken -/
  commands : List Command
  /-- the command of this number from now is lost; none if zero -/
  fuse : Nat
deriving DecidableEq

namespace CommandLog

/-- A log that has taken nothing and loses nothing. -/
def empty : CommandLog := ⟨[], 0⟩

/-- Remembers a command as the last one. -/
def push (log : CommandLog) (command : Command) : CommandLog :=
  { log with commands := log.commands ++ [command] }

/-- The commands of a topic, in the order in which they were taken. -/
def ofTopic (log : CommandLog) (topic : String) : List Command :=
  log.commands.filter (·.topic = topic)

/-- Forgets the commands. A command that is to be lost is still to be lost. -/
def clear (log : CommandLog) : CommandLog := { log with commands := [] }

instance : CommandSink CommandLog where
  dispatch log _ command :=
    if log.fuse = 1 then ({ log with fuse := 0 }, false)
    else ({ log.push command with fuse := log.fuse - 1 }, true)
  deadline? _ := none
  ring log _ := log
  report log := (log, [])

end CommandLog

end InCallProximity
