import LiveService.Files.FileSystem
import LiveService.Net.Host
import LiveService.Net.ServerPlan

/-!
Bringing a server up: its configuration is turned into a plan, the plan is checked and resolved, keys
are loaded, and the address is bound.
-/

namespace LiveService

structure Surroundings where
  files : FileSystem
  lookUp : String → Except String (List IpAddress)
  bind : SocketAddress → Except IoError SocketAddress
  keysFit : Bytes → Bytes → Except String Unit

namespace Surroundings

def addresses (surroundings : Surroundings) : Target → Except String (List SocketAddress)
  | .literal address => .ok [address]
  | .named host port =>
    (surroundings.lookUp host).map fun found => found.map fun ip => ⟨ip, port⟩

def loadKeys (surroundings : Surroundings) (tls : TlsConfig) : Except ServeError Unit :=
  let files := surroundings.files
  let certificate : Path := ⟨tls.certPath⟩
  let key : Path := ⟨tls.keyPath⟩
  if !files.isPresent certificate then .error (.missingFile "Certificate" tls.certPath)
  else if !files.isPresent key then .error (.missingFile "Private key" tls.keyPath)
  else
    match files.read certificate, files.read key with
    | .error error, _ => .error (.refused error)
    | _, .error error => .error (.refused error)
    | .ok certificate, .ok key =>
      match surroundings.keysFit certificate key with
      | .error reason => .error (.unusableKeys reason)
      | .ok () => .ok ()

end Surroundings

namespace ServerPlan

variable {App : Type}

def resolve (plan : ServerPlan App) (surroundings : Surroundings) :
    Except ListenerError SocketAddress :=
  match plan.target with
  | .error error => .error error
  | .ok target =>
    match surroundings.addresses target with
    | .error reason => .error (.serve plan.displayName (.unknownHost reason))
    | .ok [] => .error (.serve plan.displayName (.noAddress (Text.trim plan.address)))
    | .ok (address :: _) => .ok address

def listen (plan : ServerPlan App) (surroundings : Surroundings) (address : SocketAddress) :
    Except ListenerError SocketAddress :=
  let keys : Except ServeError Unit :=
    match plan.tls with
    | none => .ok ()
    | some tls => surroundings.loadKeys tls
  match keys with
  | .error cause => .error (.serve plan.displayName cause)
  | .ok () =>
    match surroundings.bind address with
    | .error error => .error (.serve plan.displayName (.refused error))
    | .ok bound => .ok bound

def launch (plan : ServerPlan App) (definitions : Option (Definitions App))
    (surroundings : Surroundings) : Except ListenerError (SocketAddress × App) :=
  match plan.check definitions.isSome with
  | .error error => .error error
  | .ok () =>
    match plan.resolve surroundings with
    | .error error => .error error
    | .ok address =>
      match plan.served definitions with
      | .error error => .error error
      | .ok app => (plan.listen surroundings address).map fun bound => (bound, app)

end ServerPlan

/-- How a listener gets from a configuration to a server. -/
structure Blueprint (Config App : Type) where
  bootstrap : Option (Config → Except String (ServerPlan App))
  definitions : Option (Definitions App)

namespace Blueprint

variable {Config App : Type}

def dryRun (blueprint : Blueprint Config App) (config : Config) : Except ListenerError String :=
  match blueprint.bootstrap with
  | none => .error (.misconfigured .noBootstrap)
  | some bootstrap =>
    match bootstrap config with
    | .error reason => .error (.misconfigured (.dryRun reason))
    | .ok plan => (plan.check blueprint.definitions.isSome).map fun () => plan.displayName

def launch (blueprint : Blueprint Config App) (listener : String) (surroundings : Surroundings)
    (config : Config) : Except ListenerError (SocketAddress × App) :=
  match blueprint.bootstrap with
  | none => .error (.misconfigured .noBootstrap)
  | some bootstrap =>
    match bootstrap config with
    | .error reason => .error (.bootstrap listener reason)
    | .ok plan => plan.launch blueprint.definitions surroundings

end Blueprint

end LiveService
