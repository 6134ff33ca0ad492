/-!
Bursts of wake-ups become one run of the callbacks.  After a wake-up the receiver waits for a quiet
period, which every further wake-up starts anew; then the callbacks run.
-/

namespace LiveService

def quietPeriod : Nat := 150

inductive Receipt where
  | wake
  | quiet
  | closed
  deriving DecidableEq

inductive Debouncer where
  | wakeUp
  | silence
  | nothing
  deriving DecidableEq

namespace Debouncer

/-- What the receiver waits for next, and whether the callbacks run before.  Who waits for a wake-up
does not look at the time. -/
def next : Debouncer → Receipt → Debouncer × Bool
  | .wakeUp, .wake => (.silence, false)
  | .wakeUp, .quiet => (.wakeUp, false)
  | .silence, .wake => (.silence, false)
  | .silence, .quiet => (.wakeUp, true)
  | .nothing, _ => (.nothing, false)
  | _, .closed => (.nothing, false)

def runs : Debouncer → List Receipt → List Bool
  | _, [] => []
  | debouncer, receipt :: rest =>
    let (debouncer, run) := debouncer.next receipt
    run :: debouncer.runs rest

end Debouncer

end LiveService
