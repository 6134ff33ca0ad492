/-!
Signals of the operating system.  A hang-up asks to read the configuration again; the others ask to
shut down, and after one of them no signal is looked at any more.
-/

namespace LiveService

inductive Signal where
  | hangUp
  | terminate
  | interrupt
  deriving DecidableEq

def Signal.word : Signal → String
  | .hangUp => "SIGHUP"
  | .terminate => "SIGTERM"
  | .interrupt => "SIGINT"

structure SignalLoop where
  reloads : Nat
  finished : Bool

namespace SignalLoop

def start : SignalLoop := ⟨0, false⟩

def receive (loop : SignalLoop) (signal : Signal) : SignalLoop :=
  if loop.finished then loop
  else
    match signal with
    | .hangUp => { loop with reloads := loop.reloads + 1 }
    | _ => { loop with finished := true }

def isTriggered (loop : SignalLoop) : Bool := loop.finished

end SignalLoop

end LiveService
