import LiveService.Log.Journal
import LiveService.Service.Site

/-!
What the log says about a site.  Remarks are made of the difference between two sites that follow each
other, so nothing that happens has to think of them.
-/

namespace LiveService

namespace Site

def pathText (site : Site) : String := site.store.backing.path.text

def versionText (site : Site) : String := Text.decimal site.store.slots.version

def complaint (site : Site) : String :=
  match ConfigFile.read site.store.backing.format site.files site.store.backing.path with
  | .ok (.invalid _ error) => error.message
  | .ok .empty => "file is empty"
  | _ => ""

def rollbackComplaint? (site : Site) : Option String :=
  match (site.store.backing.restore site.store.slots site.files).result with
  | .error error => some error.message
  | .ok _ => none

def failureText (site : Site) : String :=
  match site.listener.stage with
  | .failed _ error => error.message
  | .rollingBack _ error => error.message
  | _ => ""

end Site

namespace Journal

def noteCount (before after : Site) (journal : Journal) : Count → Journal
  | .commit source => journal.note (.committed after.pathText after.versionText source.word)
  | .restore => journal.note (.restored after.pathText after.versionText)
  | .quarantine =>
    journal.note
      (.quarantined after.pathText (ConfigFile.rejectedPath after.store.backing.path).text
        before.complaint)
  | .restart listener true =>
    journal.note (.restarted listener (Text.decimal after.listener.version))
  | .restart listener false =>
    journal.note (.restartFailed listener (Text.decimal after.listener.version) after.failureText)
  | .rollback _ => journal

def noteStates (journal : Journal) (listener : String) : List ListenerState → Journal
  | after :: before :: earlier =>
    (journal.noteStates listener (before :: earlier)).note
      (.stateChanged listener before.word after.word)
  | _ => journal

def serverName (server : Server ServiceConfig) : String :=
  ({ name := server.config.listener.name } : ServerPlan Unit).displayName

def noteListening (journal : Journal) (server : Server ServiceConfig) : Journal :=
  journal.note
    (.serverListening (serverName server) server.address.text server.config.listener.protocol.title
      (if server.config.listener.tls.isSome then "true" else "false"))

def noteStopped (journal : Journal) (server : Server ServiceConfig) : Journal :=
  journal.note (.serverStopped (serverName server) server.address.text)

/-- What is said when a failure turns out to stand. -/
def noteFailure (journal : Journal) (before : Site) (verdict : Verdict) : Journal :=
  let listener := before.listener.name
  let journal :=
    match before.listener.stage, before.rollbackComplaint? with
    | .rollingBack _ _, some complaint => journal.note (.rollbackFailed listener complaint)
    | _, _ => journal
  match verdict with
  | .refused error => journal.note (.listenerRefused listener error.message)
  | .resolved _ => journal

def noteEnd (journal : Journal) (listener : String) : Verdict → Journal
  | .refused _ => journal
  | .resolved (.ok ()) => journal.note (.listenerStopped listener)
  | .resolved (.error error) => journal.note (.listenerFailed listener error.message)

def noteStage (journal : Journal) (before after : Site) : Journal :=
  let listener := after.listener.name
  match before.listener.stage, after.listener.stage with
  | .launching _ _ _, .waiting => after.listener.server.elim journal journal.noteListening
  | .waiting, .waiting =>
    journal.noteWhen (before.listener.reload && !after.listener.reload)
      (.alreadyServing listener (Text.decimal after.listener.version))
  | .failed _ _, .rollingBack _ _ => journal.note (.rollingBack listener after.failureText)
  | .failed _ _, .leaving _ verdict => journal.noteFailure before verdict
  | .rollingBack _ _, .leaving _ verdict => journal.noteFailure before verdict
  | .closing _, .launching _ _ _ => before.listener.server.elim journal journal.noteStopped
  | .closing _, .leaving _ _ => before.listener.server.elim journal journal.noteStopped
  | .leaving .terminating verdict, .leaving .reporting _ => journal.noteEnd listener verdict
  | _, _ => journal

def noteLaunch (journal : Journal) (config : ServiceConfig) : Journal :=
  journal.noteWhen config.violations.isEmpty
    (.bootstrapped config.listener.name config.listener.bindAddress config.listener.protocol.title)

def noteAdjustment (journal : Journal) : Adjustment → Journal
  | .level level => journal.setLevel level
  | .scheduled period => journal.note (.refreshScheduled period.describe)
  | .unscheduled => journal.note .scheduleCancelled
  | .abandoned event => journal.note (.subscriberFailed event)

def noteSettings (journal : Journal) (before after : Settings) : Journal :=
  (after.adjustments.drop before.adjustments.length).foldl noteAdjustment journal

def noteStep (journal : Journal) (before after : Site) : Journal :=
  let counted := (after.counts.drop before.counts.length).foldl (noteCount before after) journal
  let settled := counted.noteSettings before.settings after.settings
  let launches := after.listener.launches.take
    (after.listener.launches.length - before.listener.launches.length)
  let launched := launches.foldr (fun (_, config) journal => journal.noteLaunch config) settled
  let states := after.listener.states.take
    (after.listener.states.length - before.listener.states.length + 1)
  (launched.noteStates after.listener.name states).noteStage before after

def noteTrail (journal : Journal) (site : Site) : List Site → Journal
  | [] => journal
  | next :: rest => (journal.noteStep site next).noteTrail next rest

end Journal

end LiveService
