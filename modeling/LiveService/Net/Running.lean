import LiveService.Net.Deployment

/-!
A deployment that runs by itself: what has started goes on to its end, oldest first, and the listener
catches up with the store.
-/

namespace LiveService

structure Environment (Config Settings App : Type) where
  blueprint : Blueprint Config App
  outside : FileSystem → Surroundings
  follow : Event Config → Settings → Settings

def Environment.launch {Config Settings App : Type} (environment : Environment Config Settings App)
    (listener : String) (files : FileSystem) (config : Config) :
    Except ListenerError SocketAddress :=
  (environment.blueprint.launch listener (environment.outside files) config).map Prod.fst

namespace Deployment

variable {Config Settings App : Type}

def nextMove (deployment : Deployment Config Settings)
    (environment : Environment Config Settings App) : Option (Move Config) :=
  let listener := deployment.listener
  if !deployment.store.isFree then some .release
  else if !deployment.unannounced.isEmpty then some (.announce 0)
  else if !deployment.calls.isEmpty then some (.deliver 0)
  else
    match listener.stage with
    | .fresh => none
    | .ended => none
    | .launching _ _ config =>
      some (.launched (environment.launch listener.name deployment.files config))
    | .waiting =>
      if listener.reload then some .wake else if listener.stopAsked then some .halt else none
    | _ => some .proceed

variable [BEq Config]

def trailFor (environment : Environment Config Settings App) :
    Nat → Deployment Config Settings → List (Deployment Config Settings)
  | 0, _ => []
  | limit + 1, deployment =>
    match (deployment.nextMove environment).bind (deployment.move environment.follow) with
    | none => []
    | some next => next :: trailFor environment limit next

/-- More moves than can follow: each event starts a call per subscriber, each call wakes the listener
at most once, and a configuration is rolled back at most once. -/
def limit (deployment : Deployment Config Settings) : Nat :=
  20 * (deployment.store.subscriptions.count + 2) *
      (deployment.store.withheld.length + deployment.unannounced.length + 2) +
    20 * (deployment.calls.length + 4)

def trail (deployment : Deployment Config Settings)
    (environment : Environment Config Settings App) : List (Deployment Config Settings) :=
  trailFor environment deployment.limit deployment

def rest (deployment : Deployment Config Settings)
    (environment : Environment Config Settings App) : Deployment Config Settings :=
  (deployment.trail environment).getLastD deployment

def stop (deployment : Deployment Config Settings)
    (environment : Environment Config Settings App) : Deployment Config Settings :=
  deployment.askToStop.rest environment

def build (deployment : Deployment Config Settings)
    (environment : Environment Config Settings App) :
    Deployment Config Settings × Except ListenerError Unit :=
  match environment.blueprint.dryRun deployment.store.slots.current with
  | .error error => ({ deployment with listener := .built "" }, .error error)
  | .ok name => ({ deployment with listener := .built name }, .ok ())

def startResult (deployment : Deployment Config Settings) : Except ListenerError Unit :=
  match deployment.listener.completion with
  | .refused error => .error error
  | _ => .ok ()

/-- What `stop` gives its caller, who waits as long as the supervisor is at work. -/
def stopResult (deployment : Deployment Config Settings) : Option (Except ListenerError Unit) :=
  if deployment.listener.isSupervised then none else some (.ok ())

def startUp (deployment : Deployment Config Settings)
    (environment : Environment Config Settings App) :
    Deployment Config Settings × Except ListenerError Unit :=
  match deployment.start with
  | .error error => (deployment, .error error)
  | .ok started =>
    let rested := started.rest environment
    (rested, rested.startResult)

end Deployment

end LiveService
