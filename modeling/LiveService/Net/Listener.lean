import LiveService.Net.Launch
import LiveService.Store.Event

/-!
A listener by what it is doing.  `start` runs until a server is up or a failure stands; from then on a
supervisor waits for changes of the configuration, for a request to stop, and for the server to fail.
-/

namespace LiveService

structure Server (Config : Type) where
  version : Nat
  config : Config
  address : SocketAddress

inductive Origin where
  | start
  | supervisor
  deriving DecidableEq

/-- What the end of a listener comes to: `start` fails for good, or the supervisor leaves. -/
inductive Verdict where
  | refused (error : ListenerError)
  | resolved (outcome : Except ListenerError Unit)

inductive Farewell where
  | unsubscribing
  | withdrawing
  | terminating
  | reporting

inductive Stage (Config : Type) where
  | fresh
  | subscribing (modified : Nat)
  | reading
  | launching (origin : Origin) (version : Nat) (config : Config)
  | failed (origin : Origin) (error : ListenerError)
  | rollingBack (origin : Origin) (error : ListenerError)
  | announcing (origin : Origin) (event : Event Config)
  | waiting
  | closing (next : Option (Nat × Config))
  | leaving (farewell : Farewell) (verdict : Verdict)
  | ended

inductive Completion where
  | unstarted
  | refused (error : ListenerError)
  | pending
  | resolved (outcome : Except ListenerError Unit)

def Origin.verdict (error : ListenerError) : Origin → Verdict
  | .start => .refused error
  | .supervisor => .resolved (.error error)

def Verdict.completion : Verdict → Completion
  | .refused error => .refused error
  | .resolved outcome => .resolved outcome

/-- What comes after the subscriptions.  Before the first server is up, no address has been shown. -/
def Verdict.unsubscribed : Verdict → Farewell
  | .refused _ => .terminating
  | .resolved _ => .withdrawing

/-- `states` are the states seen from outside, the latest first; `version` is that of the last launch,
and `launches` are all of them, the latest first. -/
structure Listener (Config : Type) where
  name : String
  stage : Stage Config
  states : List ListenerState
  server : Option (Server Config)
  address : Option SocketAddress
  version : Nat
  reload : Bool
  stopAsked : Bool
  subscriptions : List Nat
  completion : Completion
  launches : List (Nat × Config)

namespace Listener

variable {Config : Type}

def built (name : String) : Listener Config where
  name := name
  stage := .fresh
  states := [.idle]
  server := none
  address := none
  version := 0
  reload := false
  stopAsked := false
  subscriptions := []
  completion := .unstarted
  launches := []

def state (listener : Listener Config) : ListenerState := listener.states.headD .idle

def enter (listener : Listener Config) (state : ListenerState) : Listener Config :=
  if listener.state = state then listener
  else { listener with states := state :: listener.states }

def launchOf (listener : Listener Config) (origin : Origin) (version : Nat) (config : Config) :
    Listener Config :=
  { listener.enter .starting with
    stage := .launching origin version config
    version := version
    launches := (version, config) :: listener.launches }

def serve (listener : Listener Config) (version : Nat) (config : Config)
    (address : SocketAddress) : Listener Config :=
  { listener.enter .running with
    stage := .waiting
    server := some ⟨version, config, address⟩
    address := some address }

def leave (listener : Listener Config) (verdict : Verdict) : Farewell → Listener Config
  | .unsubscribing =>
    match listener.subscriptions with
    | _ :: left => { listener with subscriptions := left }
    | [] => { listener with stage := .leaving verdict.unsubscribed verdict }
  | .withdrawing => { listener with stage := .leaving .terminating verdict, address := none }
  | .terminating => { listener.enter .terminated with stage := .leaving .reporting verdict }
  | .reporting => { listener with stage := .ended, completion := verdict.completion }

def resume (listener : Listener Config) : Origin → Listener Config
  | .start => { listener with stage := .reading }
  | .supervisor => { listener.enter .idle with stage := .waiting }

def close (listener : Listener Config) (next : Option (Nat × Config)) : Listener Config :=
  { listener.enter .stopping with stage := .closing next }

def closed (listener : Listener Config) : Option (Nat × Config) → Listener Config
  | some (version, config) =>
    ({ listener.enter .idle with server := none, address := none }).launchOf .supervisor version
      config
  | none =>
    { listener.enter .idle with
      server := none
      stage := .leaving .unsubscribing (.resolved (.ok ())) }

def isSupervised (listener : Listener Config) : Bool :=
  match listener.completion with
  | .pending => true
  | _ => false

end Listener

end LiveService
