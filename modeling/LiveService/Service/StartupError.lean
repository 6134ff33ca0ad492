import LiveService.Net.ListenerError
import LiveService.Store.ConfigError

/-!
Why the service does not start, or ends with a failure.
-/

namespace LiveService

inductive MetricsError where
  | notAnAddress
  | refused (error : IoError)

def MetricsError.message : MetricsError → String
  | .notAnAddress => "invalid socket address syntax"
  | .refused error => "failed to create HTTP listener: " ++ error.message

inductive StartupError where
  | tornFilter
  | store (error : ConfigError)
  | notifier (error : NotifierError)
  | listener (error : ListenerError)
  | metrics (address : String) (reason : MetricsError)

def StartupError.message : StartupError → String
  | .tornFilter => "a part of the log filter starts or stops inside a character"
  | .store error => error.message
  | .notifier error => "cannot watch configuration file: " ++ error.message
  | .listener error => error.message
  | .metrics address reason => "metrics endpoint " ++ address ++ ": " ++ reason.message

end LiveService
