import LiveService.Schedule.Period

/-!
The configuration of the service, by its parts, with the values that stand for what a file leaves out.
-/

namespace LiveService

inductive Protocol where
  | http
  | rpc
  deriving DecidableEq

def Protocol.word : Protocol → String
  | .http => "http"
  | .rpc => "rpc"

def Protocol.title : Protocol → String
  | .http => "Http"
  | .rpc => "Rpc"

def Protocol.codec : Codec Protocol := .choice Protocol.word [.http, .rpc]

structure TlsConfig where
  certPath : String
  keyPath : String
  deriving DecidableEq

structure ListenerConfig where
  name : String := "main"
  bindAddress : String := "0.0.0.0:8080"
  protocol : Protocol := .http
  tls : Option TlsConfig := none
  deriving DecidableEq

structure RefreshConfig where
  enabled : Bool := false
  period : Period := .standard
  deriving DecidableEq

structure TimeoutConfig where
  requestSeconds : UInt64 := 30
  deriving DecidableEq

structure ObservabilityConfig where
  logLevel : String := "info"
  metricsEnabled : Bool := false
  metricsAddress : String := "127.0.0.1:9090"
  deriving DecidableEq

structure ServiceConfig where
  listener : ListenerConfig := {}
  refresh : RefreshConfig := {}
  timeouts : TimeoutConfig := {}
  observability : ObservabilityConfig := {}
  greeting : String := "hello from live-listener"
  deriving DecidableEq

def TlsConfig.codec : Codec TlsConfig :=
  (Codec.record "TlsConfig"
    (.cons (.required "cert_path" .text) <|
     .cons (.required "key_path" .text) .nil)).along
    (fun (certPath, keyPath, ()) => ⟨certPath, keyPath⟩)
    (fun config => (config.certPath, config.keyPath, ()))

def ListenerConfig.codec : Codec ListenerConfig :=
  let standard : ListenerConfig := {}
  (Codec.record "ListenerConfig"
    (.cons (.withDefault "name" .text standard.name) <|
     .cons (.withDefault "bind_address" .text standard.bindAddress) <|
     .cons (.withDefault "protocol" Protocol.codec standard.protocol) <|
     .cons (.withDefault "tls" TlsConfig.codec.optional standard.tls) .nil)).along
    (fun (name, bindAddress, protocol, tls, ()) => ⟨name, bindAddress, protocol, tls⟩)
    (fun config => (config.name, config.bindAddress, config.protocol, config.tls, ()))

def RefreshConfig.codec : Codec RefreshConfig :=
  let standard : RefreshConfig := {}
  (Codec.record "RefreshConfig"
    (.cons (.withDefault "enabled" .flag standard.enabled) <|
     .cons (.withDefault "period" Period.codec standard.period) .nil)).along
    (fun (enabled, period, ()) => ⟨enabled, period⟩)
    (fun config => (config.enabled, config.period, ()))

def TimeoutConfig.codec : Codec TimeoutConfig :=
  let standard : TimeoutConfig := {}
  (Codec.record "TimeoutConfig"
    (.cons (.withDefault "request_secs" .word64 standard.requestSeconds) .nil)).along
    (fun (requestSeconds, ()) => ⟨requestSeconds⟩)
    (fun config => (config.requestSeconds, ()))

def ObservabilityConfig.codec : Codec ObservabilityConfig :=
  let standard : ObservabilityConfig := {}
  (Codec.record "ObservabilityConfig"
    (.cons (.withDefault "log_level" .text standard.logLevel) <|
     .cons (.withDefault "metrics_enabled" .flag standard.metricsEnabled) <|
     .cons (.withDefault "metrics_address" .text standard.metricsAddress) .nil)).along
    (fun (logLevel, metricsEnabled, metricsAddress, ()) =>
      ⟨logLevel, metricsEnabled, metricsAddress⟩)
    (fun config => (config.logLevel, config.metricsEnabled, config.metricsAddress, ()))

def ServiceConfig.codec : Codec ServiceConfig :=
  let standard : ServiceConfig := {}
  (Codec.record "ServiceConfig"
    (.cons (.withDefault "listener" ListenerConfig.codec standard.listener) <|
     .cons (.withDefault "refresh" RefreshConfig.codec standard.refresh) <|
     .cons (.withDefault "timeouts" TimeoutConfig.codec standard.timeouts) <|
     .cons (.withDefault "observability" ObservabilityConfig.codec standard.observability) <|
     .cons (.withDefault "greeting" .text standard.greeting) .nil)).along
    (fun (listener, refresh, timeouts, observability, greeting, ()) =>
      ⟨listener, refresh, timeouts, observability, greeting⟩)
    (fun config =>
      (config.listener, config.refresh, config.timeouts, config.observability, config.greeting, ()))

end LiveService
