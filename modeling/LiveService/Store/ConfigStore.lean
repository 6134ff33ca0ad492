import LiveService.Store.Operations

/-!
A configuration store with those who subscribed to it.
-/

namespace LiveService

/-- `withheld` are the events of an operation that has the store and has not told anyone yet. -/
structure ConfigStore (Config Callback : Type) where
  backing : Backing Config
  slots : Slots Config
  subscriptions : Subscriptions Config Callback
  withheld : List (Event Config)

namespace ConfigStore

variable {Config Callback : Type}

def load (backing : Backing Config) (defaults : Config) (files : FileSystem)
    (notifier : Except NotifierError Unit) :
    FileSystem × Except ConfigError (ConfigStore Config Callback) :=
  let (files, loaded) := backing.load defaults files notifier
  (files, loaded.map fun slots => ⟨backing, slots, .empty, []⟩)

def isFree (store : ConfigStore Config Callback) : Bool := store.withheld.isEmpty

def released (store : ConfigStore Config Callback) : ConfigStore Config Callback :=
  { store with withheld := [] }

def perform [BEq Config] (store : ConfigStore Config Callback) (files : FileSystem)
    (command : Command Config) : ConfigStore Config Callback × Outcome Config :=
  let outcome := store.backing.perform store.slots files command
  ({ store with slots := outcome.slots }, outcome)

def propose (store : ConfigStore Config Callback) (files : FileSystem) (value : Config) :
    ConfigStore Config Callback × Outcome Config × List (Nat × Proposal Config) :=
  let (outcome, asked) :=
    store.backing.propose store.subscriptions.modifying store.slots files value
  ({ store with slots := outcome.slots }, outcome, asked)

def calls (store : ConfigStore Config Callback) (events : List (Event Config)) :
    List (Callback × Event Config) :=
  events.flatMap fun event =>
    (store.subscriptions.calls event).map fun (_, callback) => (callback, event)

def unsubscribe (store : ConfigStore Config Callback) (id : Nat) :
    Bool × ConfigStore Config Callback :=
  let (removed, subscriptions) := store.subscriptions.unsubscribe id
  (removed, { store with subscriptions := subscriptions })

end ConfigStore

end LiveService
