import LiveService.Files.IoError
import LiveService.Net.Target
import LiveService.Text.Quoted

/-!
What a listener is seen doing, and why it cannot go on.
-/

namespace LiveService

inductive ListenerState where
  | idle
  | starting
  | running
  | stopping
  | terminated
  deriving DecidableEq

def ListenerState.word : ListenerState → String
  | .idle => "Idle"
  | .starting => "Starting"
  | .running => "Running"
  | .stopping => "Stopping"
  | .terminated => "Terminated"

inductive Misconfiguration where
  | noBootstrap
  | dryRun (reason : String)
  | noDefinitions (listener : String)
  | noHandler (listener : String)
  | nothingToServe (listener : String)

def Misconfiguration.message : Misconfiguration → String
  | .noBootstrap => "no bootstrap function set"
  | .dryRun reason => "bootstrap dry run failed: " ++ reason
  | .noDefinitions listener =>
      "listener " ++ listener ++ ": rpc protocol requested without protocol definitions"
  | .noHandler listener =>
      "listener " ++ listener ++ ": http protocol requested without a handler"
  | .nothingToServe listener => "listener " ++ listener ++ ": no handler to serve"

inductive ServeError where
  | target (error : TargetError)
  | unknownHost (reason : String)
  | noAddress (address : String)
  | missingFile (what path : String)
  | unusableKeys (reason : String)
  | refused (error : IoError)
  | exited

def ServeError.message : ServeError → String
  | .target error => error.message
  | .unknownHost reason => "failed to lookup address information: " ++ reason
  | .noAddress address => address ++ " resolved to no addresses"
  | .missingFile what path => what ++ " file not found: " ++ Text.quoted path
  | .unusableKeys reason => reason
  | .refused error => error.message
  | .exited => "server exited unexpectedly"

inductive ListenerError where
  | misconfigured (cause : Misconfiguration)
  | addressNotConfigured (listener : String)
  | bootstrap (listener reason : String)
  | serve (listener : String) (cause : ServeError)
  | invalidState (action : String) (state : ListenerState)
  | unexpected (reason : String)

def ListenerError.message : ListenerError → String
  | .misconfigured cause => "listener misconfigured: " ++ cause.message
  | .addressNotConfigured listener => "listener " ++ listener ++ ": no address configured"
  | .bootstrap listener reason => "listener " ++ listener ++ ": bootstrap failed: " ++ reason
  | .serve listener cause => "listener " ++ listener ++ ": " ++ cause.message
  | .invalidState action state =>
      "cannot " ++ action ++ " a listener that is " ++ state.word
  | .unexpected reason => "unexpected listener error: " ++ reason

end LiveService
