import LiveService.Store.Event

/-!
What is counted.
-/

namespace LiveService

inductive Count where
  | commit (source : Source)
  | restore
  | quarantine
  | restart (listener : String) (succeeded : Bool)
  | rollback (listener : String)
  deriving DecidableEq

def Count.series : Count → String
  | .commit source => "config_commits_total\x7bsource=" ++ source.word ++ "\x7d"
  | .restore => "config_restores_total\x7b\x7d"
  | .quarantine => "config_quarantines_total\x7b\x7d"
  | .restart listener succeeded =>
      "listener_restarts_total\x7blistener=" ++ listener ++ ",outcome=" ++
        (if succeeded then "ok" else "failed") ++ "\x7d"
  | .rollback listener => "listener_rollbacks_total\x7blistener=" ++ listener ++ "\x7d"

def Count.totals (counts : List Count) : List (String × Nat) :=
  let series := counts.map Count.series
  series.eraseDups.map fun name => (name, series.count name)

end LiveService
