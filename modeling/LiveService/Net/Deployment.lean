import LiveService.Net.Listener
import LiveService.Store.ConfigStore

/-!
A store with a listener that follows it, step by step.  Operations on the store, the calls that they
start and the steps of the listener come in any order; each of them is one move.
-/

namespace LiveService

inductive Follower where
  | listener
  | settings
  deriving DecidableEq

/-- `calls` have started and not yet run; `unannounced` are events of operations that have released the
store and not yet told anyone. -/
structure Deployment (Config Settings : Type) where
  store : ConfigStore Config Follower
  files : FileSystem
  listener : Listener Config
  settings : Settings
  calls : List (Follower × Event Config)
  unannounced : List (Event Config)
  counts : List Count

namespace Deployment

variable {Config Settings : Type}

def count (deployment : Deployment Config Settings) (count : Count) : Deployment Config Settings :=
  { deployment with counts := deployment.counts ++ [count] }

def tell (deployment : Deployment Config Settings) (events : List (Event Config)) :
    Deployment Config Settings :=
  { deployment with calls := deployment.calls ++ deployment.store.calls events }

def settle (deployment : Deployment Config Settings) (outcome : Outcome Config) :
    Deployment Config Settings :=
  ({ deployment with
      store := { deployment.store with slots := outcome.slots }
      files := outcome.files
      counts := deployment.counts ++ outcome.counts }).tell outcome.events

def operate [BEq Config] (deployment : Deployment Config Settings) (command : Command Config) :
    Deployment Config Settings × Except ConfigError Answer :=
  let (_, outcome) := deployment.store.perform deployment.files command
  let settled := deployment.settle outcome
  ({ settled with unannounced := settled.unannounced ++ outcome.lateEvents }, outcome.result)

/-- Somebody runs an operation on the store, which tells of nothing yet.  The value that it puts into
effect can be read at once; if it has something to tell, then it keeps the store until it has. -/
def enact [BEq Config] (deployment : Deployment Config Settings) (command : Command Config) :
    Deployment Config Settings :=
  let (_, outcome) := deployment.store.perform deployment.files command
  let settled := deployment.settle { outcome with events := [] }
  { settled with
    store := { settled.store with withheld := outcome.events }
    unannounced := settled.unannounced ++ outcome.lateEvents }

def release (deployment : Deployment Config Settings) : Option (Deployment Config Settings) :=
  if deployment.store.isFree then none
  else
    some (({ deployment with store := deployment.store.released }).tell deployment.store.withheld)

def announce (deployment : Deployment Config Settings) (index : Nat) :
    Option (Deployment Config Settings) :=
  deployment.unannounced[index]?.map fun event =>
    ({ deployment with unannounced := deployment.unannounced.eraseIdx index }).tell [event]

def deliver (follow : Event Config → Settings → Settings)
    (deployment : Deployment Config Settings) (index : Nat) :
    Option (Deployment Config Settings) :=
  deployment.calls[index]?.map fun (follower, event) =>
    let rest := { deployment with calls := deployment.calls.eraseIdx index }
    match follower with
    | .listener => { rest with listener := { rest.listener with reload := true } }
    | .settings => { rest with settings := follow event rest.settings }

def start (deployment : Deployment Config Settings) :
    Except ListenerError (Deployment Config Settings) :=
  match deployment.listener.stage with
  | .fresh =>
    let (modified, subscriptions) := deployment.store.subscriptions.onModified .listener
    .ok
      { deployment with
        store := { deployment.store with subscriptions := subscriptions }
        listener := { deployment.listener with stage := .subscribing modified } }
  | _ => .error (.invalidState "start" deployment.listener.state)

def askToStop (deployment : Deployment Config Settings) : Deployment Config Settings :=
  if deployment.listener.isSupervised then
    { deployment with listener := { deployment.listener with stopAsked := true } }
  else deployment

/-- A listener that ends takes its next step.  It takes one subscription at a time out of the store. -/
def leave (deployment : Deployment Config Settings) (verdict : Verdict) (farewell : Farewell) :
    Deployment Config Settings :=
  let store :=
    match farewell, deployment.listener.subscriptions with
    | .unsubscribing, id :: _ => (deployment.store.unsubscribe id).2
    | _, _ => deployment.store
  { deployment with store := store, listener := deployment.listener.leave verdict farewell }

def proceed [BEq Config] (deployment : Deployment Config Settings) :
    Option (Deployment Config Settings) :=
  let listener := deployment.listener
  let slots := deployment.store.slots
  match listener.stage with
  | .subscribing modified =>
    let (restored, subscriptions) := deployment.store.subscriptions.onRestored .listener
    some
      { deployment with
        store := { deployment.store with subscriptions := subscriptions }
        listener := { listener with stage := .reading, subscriptions := [modified, restored] } }
  | .reading =>
    some { deployment with listener := listener.launchOf .start slots.version slots.current }
  | .failed origin error =>
    if deployment.store.isFree then
      if slots.canRestore then
        some { deployment with listener := { listener with stage := .rollingBack origin error } }
      else
        some
          { deployment with
            listener := { listener with stage := .leaving .unsubscribing (origin.verdict error) } }
    else none
  | .rollingBack origin error =>
    if deployment.store.isFree then
      let outcome := deployment.store.backing.restore slots deployment.files
      let stage :=
        match outcome.result, outcome.lateEvents with
        | .ok _, [event] => .announcing origin event
        | _, _ => .leaving .unsubscribing (origin.verdict error)
      some { deployment.settle outcome with listener := { listener with stage := stage } }
    else none
  | .announcing origin event =>
    let told := (deployment.tell [event]).count (.rollback listener.name)
    some { told with listener := told.listener.resume origin }
  | .closing next => some { deployment with listener := listener.closed next }
  | .leaving farewell verdict => some (deployment.leave verdict farewell)
  | _ => none

def launched (deployment : Deployment Config Settings)
    (result : Except ListenerError SocketAddress) : Option (Deployment Config Settings) :=
  let listener := deployment.listener
  match listener.stage with
  | .launching origin version config =>
    let counted :=
      match origin with
      | .start => deployment
      | .supervisor =>
        deployment.count
          (.restart listener.name (match result with | .ok _ => true | .error _ => false))
    match result with
    | .ok address =>
      let served := listener.serve version config address
      let completion :=
        match origin with
        | .start => .pending
        | .supervisor => served.completion
      some { counted with listener := { served with completion := completion } }
    | .error error =>
      some { counted with listener := { listener with stage := .failed origin error } }
  | _ => none

def wake (deployment : Deployment Config Settings) : Option (Deployment Config Settings) :=
  let slots := deployment.store.slots
  match deployment.listener.stage with
  | .waiting =>
    if deployment.listener.reload then
      let listener := { deployment.listener with reload := false }
      match listener.server with
      | some _ =>
        if slots.version == listener.version then some { deployment with listener := listener }
        else
          some { deployment with listener := listener.close (some (slots.version, slots.current)) }
      | none =>
        some
          { deployment with listener := listener.launchOf .supervisor slots.version slots.current }
    else none
  | _ => none

def halt (deployment : Deployment Config Settings) : Option (Deployment Config Settings) :=
  match deployment.listener.stage with
  | .waiting =>
    if deployment.listener.stopAsked then
      match deployment.listener.server with
      | some _ => some { deployment with listener := deployment.listener.close none }
      | none =>
        let stage := .leaving .unsubscribing (.resolved (.ok ()))
        some { deployment with listener := { deployment.listener with stage := stage } }
    else none
  | _ => none

def serverFailed (deployment : Deployment Config Settings) (error : ListenerError) :
    Option (Deployment Config Settings) :=
  match deployment.listener.stage, deployment.listener.server with
  | .waiting, some _ =>
    some
      { deployment with
        listener :=
          { deployment.listener with
            server := none
            address := none
            stage := .failed .supervisor error } }
  | _, _ => none

end Deployment

inductive Move (Config : Type) where
  | operate (command : Command Config)
  | enact (command : Command Config)
  | release
  | announce (index : Nat)
  | deliver (index : Nat)
  | changeFiles (files : FileSystem)
  | start
  | askToStop
  | proceed
  | launched (result : Except ListenerError SocketAddress)
  | wake
  | halt
  | serverFailed (error : ListenerError)

namespace Deployment

variable {Config Settings : Type} [BEq Config]

def move (follow : Event Config → Settings → Settings)
    (deployment : Deployment Config Settings) :
    Move Config → Option (Deployment Config Settings)
  | .operate command => if deployment.store.isFree then some (deployment.operate command).1 else none
  | .enact command => if deployment.store.isFree then some (deployment.enact command) else none
  | .release => deployment.release
  | .announce index => deployment.announce index
  | .deliver index => deployment.deliver follow index
  | .changeFiles files => some { deployment with files := files }
  | .start => deployment.start.toOption
  | .askToStop => some deployment.askToStop
  | .proceed => deployment.proceed
  | .launched result => deployment.launched result
  | .wake => deployment.wake
  | .halt => deployment.halt
  | .serverFailed error => deployment.serverFailed error

end Deployment

end LiveService
