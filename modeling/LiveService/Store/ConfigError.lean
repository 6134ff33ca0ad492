import LiveService.Store.ConfigFile

/-!
Why an operation on the configuration fails.
-/

namespace LiveService

inductive NotifierError where
  | noFileName (path : Path)
  | unwatchable (folder : Path)

def NotifierError.message : NotifierError → String
  | .noFileName path => "cannot watch " ++ path.text ++ ": path has no file name"
  | .unwatchable folder => "file watcher failed: cannot watch " ++ folder.text

inductive Unreadable where
  | refused (error : IoError)
  | invalid (error : Json.DocumentError)
  | stillEmpty

def Unreadable.message : Unreadable → String
  | .refused error => error.message
  | .invalid error => error.message
  | .stillEmpty => "file still empty after " ++ Text.decimal ConfigFile.readAttempts ++ " reads"

inductive ConfigError where
  | unreadable (path : Path) (reason : Unreadable)
  | restoreUnavailable
  | canceled (reason : String)
  | serialization (error : Json.DocumentError)
  | persist (path : Path) (error : IoError)
  | notifier (error : NotifierError)

def ConfigError.message : ConfigError → String
  | .unreadable path reason =>
      "configuration file " ++ path.text ++ " is unreadable: " ++ reason.message
  | .restoreUnavailable => "no previous configuration version to restore"
  | .canceled reason => "configuration change canceled: " ++ reason
  | .serialization error => "configuration does not round-trip through JSON: " ++ error.message
  | .persist path error => "failed to persist configuration to " ++ path.text ++ ": " ++ error.message
  | .notifier error => "change notifier subscription failed: " ++ error.message

end LiveService
