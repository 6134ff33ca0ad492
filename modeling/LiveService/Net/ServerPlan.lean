import LiveService.Config.Service
import LiveService.Net.ListenerError

/-!
A server as a configuration wants it: what to call it, where it listens, what it speaks and serves.
The same checks stand before a listener is built and before each of its launches.
-/

namespace LiveService

structure ServerPlan (App : Type) where
  name : String := ""
  address : String := ""
  protocol : Protocol := .http
  app : Option App := none
  tls : Option TlsConfig := none

abbrev Definitions (App : Type) := Option App → App

namespace ServerPlan

variable {App : Type}

def standardName : String := "listener"

def displayName (plan : ServerPlan App) : String :=
  let name := Text.trim plan.name
  if name == "" then standardName else name

def check (plan : ServerPlan App) (hasDefinitions : Bool) : Except ListenerError Unit :=
  if Text.isBlank plan.address then .error (.addressNotConfigured plan.displayName)
  else
    match plan.protocol with
    | .rpc =>
      if hasDefinitions then .ok ()
      else .error (.misconfigured (.noDefinitions plan.displayName))
    | .http =>
      if plan.app.isSome then .ok () else .error (.misconfigured (.noHandler plan.displayName))

def target (plan : ServerPlan App) : Except ListenerError Target :=
  let address := Text.trim plan.address
  if address == "" then .error (.addressNotConfigured plan.displayName)
  else
    match Target.ofText (Target.expanded address) with
    | .ok target => .ok target
    | .error error => .error (.serve plan.displayName (.target error))

/-- What is served: remote calls need definitions, everything else an application. -/
def served (plan : ServerPlan App) (definitions : Option (Definitions App)) :
    Except ListenerError App :=
  match plan.protocol, definitions with
  | .rpc, some mount => .ok (mount plan.app)
  | _, _ =>
    match plan.app with
    | some app => .ok app
    | none => .error (.misconfigured (.nothingToServe plan.displayName))

def describeTls (tls : Option TlsConfig) : String :=
  match tls with
  | none => "None"
  | some tls =>
    "Some(TlsConfig \x7b cert_path: " ++ Text.quoted tls.certPath ++ ", key_path: " ++
      Text.quoted tls.keyPath ++ " \x7d)"

def describe (plan : ServerPlan App) : String :=
  "ServerSetter \x7b name: " ++ Text.quoted plan.name ++
    ", address: " ++ Text.quoted plan.address ++
    ", protocol: " ++ plan.protocol.title ++
    ", handler: " ++ (if plan.app.isSome then "true" else "false") ++
    ", tls: " ++ describeTls plan.tls ++ " \x7d"

end ServerPlan

end LiveService
