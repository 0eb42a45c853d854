/-!
# The shutdown signal

A signal to all tasks that listen for it. The channel holds one signal: a task that missed earlier
ones is told once how many they were and then gets the latest. Signals that nobody listens for are
not sent at all, and a task hears only signals that were sent after it began to listen.
-/

namespace WebMount

/-- The signals sent so far, and the listening tasks: for each one the number of signals that it is
done with, or nothing if it stopped listening. -/
structure Shutdown where
  sent : Nat := 0
  tasks : List (Option Nat) := []
  deriving DecidableEq, Repr

namespace Shutdown

/-- What a task finds that looks for a signal. -/
inductive Notice where
  | signal
  /-- The number of signals that were missed. -/
  | lagged (missed : Nat)
  | nothing
  deriving DecidableEq, Repr

/-- The number of listening tasks. -/
def listening (s : Shutdown) : Nat :=
  s.tasks.countP (·.isSome)

/-- One more listening task, and its place among the tasks. -/
def subscribe (s : Shutdown) : Nat × Shutdown :=
  (s.tasks.length, { s with tasks := s.tasks ++ [some s.sent] })

/-- A signal to the listening tasks, and their number. -/
def trigger (s : Shutdown) : Nat × Shutdown :=
  if s.listening = 0 then (0, s) else (s.listening, { s with sent := s.sent + 1 })

/-- The task at a place stops listening. -/
def unsubscribe (s : Shutdown) (place : Nat) : Shutdown :=
  { s with tasks := s.tasks.set place none }

/-- What a task finds that is done with a number of signals, and the number it is done with
afterwards. -/
def look (sent done : Nat) : Notice × Nat :=
  if done = sent then (.nothing, done)
  else if done + 1 = sent then (.signal, sent)
  else (.lagged (sent - 1 - done), sent - 1)

/-- What the task at a place finds, if it is listening. -/
def receive (s : Shutdown) (place : Nat) : Option Notice × Shutdown :=
  match s.tasks[place]? with
  | some (some done) =>
    let (notice, done) := look s.sent done
    (some notice, { s with tasks := s.tasks.set place (some done) })
  | _ => (none, s)

end Shutdown

end WebMount
