import LiveService.Config.Service
import LiveService.Net.Target
import LiveService.Text.Quoted

/-!
What a configuration may not say although its types allow it.  A blank address is no violation here:
the listener itself has no use for one.
-/

namespace LiveService

inductive Violation where
  | emptyListenerName
  | bindAddress (address : String)
  | emptyTlsPath (field : String)
  | zeroTimeout
  | metricsAddress (address : String)
  deriving DecidableEq

def Violation.message : Violation → String
  | .emptyListenerName => "listener.name must not be empty"
  | .bindAddress address =>
      "listener.bind_address " ++ Text.quoted address ++ " is not host:port"
  | .emptyTlsPath field => "listener.tls." ++ field ++ " must not be empty"
  | .zeroTimeout => "timeouts.request_secs must be greater than zero"
  | .metricsAddress address =>
      "observability.metrics_address " ++ Text.quoted address ++ " is not a socket address"

def Violation.report (violations : List Violation) : String :=
  "Validation failed: " ++ String.intercalate ", " (violations.map Violation.message)

def Violation.when (condition : Bool) (violation : Violation) : List Violation :=
  if condition then [violation] else []

def TlsConfig.violations (tls : TlsConfig) : List Violation :=
  Violation.when (Text.isBlank tls.certPath) (.emptyTlsPath "cert_path") ++
    Violation.when (Text.isBlank tls.keyPath) (.emptyTlsPath "key_path")

def ListenerConfig.violations (listener : ListenerConfig) : List Violation :=
  let address := Text.trim listener.bindAddress
  Violation.when (Text.isBlank listener.name) .emptyListenerName ++
    Violation.when (address != "" && !Target.looksLikeHostPort address) (.bindAddress address) ++
    (listener.tls.map TlsConfig.violations).getD []

def ObservabilityConfig.violations (observability : ObservabilityConfig) : List Violation :=
  Violation.when
    (observability.metricsEnabled &&
      (SocketAddress.ofLiteral? observability.metricsAddress).isNone)
    (.metricsAddress observability.metricsAddress)

def ServiceConfig.violations (config : ServiceConfig) : List Violation :=
  config.listener.violations ++
    Violation.when (config.timeouts.requestSeconds == 0) .zeroTimeout ++
    config.observability.violations

end LiveService
