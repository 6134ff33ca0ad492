import LiveService.Metrics
import LiveService.Store.ConfigError

/-!
The values that a configuration store holds, and what an operation on them leaves behind.
-/

namespace LiveService

/-- What a store holds.  `previous` is what the last commit displaced, `seen` the content last parsed
from the file or written to it, `held` a change that arrived while the store was frozen. -/
structure Slots (Config : Type) where
  version : Nat
  current : Config
  previous : Option Config
  seen : Option Config
  held : Option Config
  frozen : Bool

namespace Slots

variable {Config : Type}

def initial (config : Config) : Slots Config := ⟨0, config, none, some config, none, false⟩

def canRestore (slots : Slots Config) : Bool := slots.previous.isSome

def commit (slots : Slots Config) (next : Config) : Slots Config :=
  { slots with version := slots.version + 1, current := next, previous := some slots.current }

def rollBack (slots : Slots Config) (former : Config) : Slots Config :=
  { slots with version := slots.version + 1, current := former, previous := none, held := none }

end Slots

inductive Reload where
  | unchanged
  | applied
  | deferred
  | quarantined
  | regenerated
  deriving DecidableEq

def Reload.word : Reload → String
  | .unchanged => "Unchanged"
  | .applied => "Applied"
  | .deferred => "Deferred"
  | .quarantined => "Quarantined"
  | .regenerated => "Regenerated"

inductive Answer where
  | done
  | refreshed (committed : Bool)
  | reloaded (outcome : Reload)
  deriving DecidableEq

/-- What an operation leaves behind.  `events` are announced while the store is still locked,
`lateEvents` after it is released. -/
structure Outcome (Config : Type) where
  result : Except ConfigError Answer
  slots : Slots Config
  files : FileSystem
  events : List (Event Config)
  lateEvents : List (Event Config)
  counts : List Count

namespace Outcome

variable {Config : Type}

def quiet (result : Except ConfigError Answer) (slots : Slots Config) (files : FileSystem) :
    Outcome Config :=
  ⟨result, slots, files, [], [], []⟩

def committed (answer : Answer) (slots : Slots Config) (files : FileSystem) (next : Config)
    (source : Source) : Outcome Config :=
  let slots' := slots.commit next
  ⟨.ok answer, slots', files, [.modified slots'.version slots.current next source], [],
    [.commit source]⟩

def announced (outcome : Outcome Config) : List (Event Config) :=
  outcome.events ++ outcome.lateEvents

end Outcome

end LiveService
