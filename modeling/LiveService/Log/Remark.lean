import LiveService.Log.Level
import LiveService.Text.Quoted

/-!
What the program may say in its log.  A remark comes from a part of the program, by the name that filters
know it by; it is a message with named values.
-/

namespace LiveService

structure Remark where
  level : Level
  target : String
  message : String
  fields : List (String × String)

namespace Remark

def ofPart (part : String) (level : Level) (message : String) (fields : List (String × String)) : Remark :=
  ⟨level, "live_listener" ++ part, message, fields⟩

def carries (remark : Remark) (field : String) : Bool :=
  field == "message" || remark.fields.any fun (name, _) => name == field

def line (remark : Remark) : String :=
  remark.level.word ++ " " ++ remark.target ++ ": " ++ remark.message ++
    String.join (remark.fields.map fun (name, value) => " " ++ name ++ "=" ++ value)

def starting : Remark := ofPart "" .info "live-listener v0.1.0 starting" []

def finished : Remark := ofPart "" .info "Shutdown complete" []

def levelChanged (level : String) : Remark :=
  ofPart "::observability::logging" .info "Log level changed" [("level", Text.quoted level)]

def metricsEnabled (address : String) : Remark :=
  ofPart "::observability::metrics" .info "Metrics endpoint enabled" [("address", address)]

/-! The store. -/

def storeCreated (path : String) : Remark :=
  ofPart "::config::handler" .info "Configuration file created from defaults" [("path", path)]

def storeLoaded (path : String) : Remark :=
  ofPart "::config::handler" .info "Configuration loaded" [("path", path)]

def committed (path version source : String) : Remark :=
  ofPart "::config::handler" .info "Configuration committed"
    [("path", path), ("version", version), ("source", Text.quoted source)]

def restored (path version : String) : Remark :=
  ofPart "::config::handler" .warn "Previous configuration restored"
    [("path", path), ("version", version)]

def quarantined (path rejected reason : String) : Remark :=
  ofPart "::config::handler" .warn
    "Unreadable configuration quarantined, file rewritten from last good value"
    [("path", path), ("quarantined", rejected), ("reason", reason)]

def regenerated (path : String) : Remark :=
  ofPart "::config::handler" .warn "Configuration file missing, regenerated" [("path", path)]

def reloadFailed (error : String) : Remark :=
  ofPart "::config::handler" .error "Configuration reload failed" [("error", error)]

def refreshScheduled (period : String) : Remark :=
  ofPart "::config::handler" .info "Configuration refresh scheduled" [("period", period)]

def subscriberFailed (event : String) : Remark :=
  ofPart "::config::events" .error "Configuration event subscriber panicked"
    [("event", Text.quoted event)]

def watcherStarted (path : String) : Remark :=
  ofPart "::config::watcher" .info "Config watcher started" [("path", path)]

def changeDetected : Remark := ofPart "::config::watcher" .debug "Config file change detected" []

/-! The listener and its server. -/

def dryRunPassed (listener address : String) : Remark :=
  ofPart "::net::builder" .debug "Listener dry run passed"
    [("listener", listener), ("address", address)]

def bootstrapped (listener address protocol : String) : Remark :=
  ofPart "::http::server" .debug "Listener bootstrapped"
    [("listener", listener), ("address", address), ("protocol", protocol)]

def stateChanged (listener before after : String) : Remark :=
  ofPart "::net::listener" .debug "Listener state changed"
    [("listener", listener), ("from", Text.quoted before), ("to", Text.quoted after)]

def alreadyServing (listener version : String) : Remark :=
  ofPart "::net::listener" .debug "Already serving this version"
    [("listener", listener), ("version", version)]

def restarted (listener version : String) : Remark :=
  ofPart "::net::listener" .info "Listener restarted" [("listener", listener), ("version", version)]

def restartFailed (listener version error : String) : Remark :=
  ofPart "::net::listener" .warn "Restart failed"
    [("listener", listener), ("version", version), ("error", error)]

def rollingBack (listener error : String) : Remark :=
  ofPart "::net::listener" .warn "Rolling back configuration"
    [("listener", listener), ("error", error)]

def rollbackFailed (listener error : String) : Remark :=
  ofPart "::net::listener" .error "Configuration rollback failed"
    [("listener", listener), ("error", error)]

def listenerRefused (listener error : String) : Remark :=
  ofPart "::net::listener" .error "Listener failed to start"
    [("listener", listener), ("error", error)]

def listenerFailed (listener error : String) : Remark :=
  ofPart "::net::listener" .error "Listener terminated" [("listener", listener), ("error", error)]

def listenerStopped (listener : String) : Remark :=
  ofPart "::net::listener" .info "Listener stopped" [("listener", listener)]

def serverListening (listener address protocol tls : String) : Remark :=
  ofPart "::net::server" .info "Server listening"
    [("listener", listener), ("address", address), ("protocol", protocol), ("tls", tls)]

def serverStopped (listener address : String) : Remark :=
  ofPart "::net::server" .info "Server stopped" [("listener", listener), ("address", address)]

/-! The service. -/

def serviceLoaded (path listener address watch : String) : Remark :=
  ofPart "::lifecycle::startup" .info "Configuration loaded"
    [("path", path), ("listener", listener), ("bind_address", address), ("watch", watch)]

def scheduleCancelled : Remark :=
  ofPart "::lifecycle::startup" .info "Configuration refresh schedule cancelled" []

def signalReceived (signal : String) : Remark :=
  ofPart "::lifecycle::signals" .info "Signal received" [("signal", Text.quoted signal)]

def shutdownRequested : Remark := ofPart "::lifecycle::shutdown" .info "Shutdown requested" []

end Remark

end LiveService
