import LiveService.Store.ConfigStore

/-!
Subscribers that run operations of their own on the store when they are told.
-/

namespace LiveService

structure Workshop (Config Callback : Type) where
  store : ConfigStore Config Callback
  files : FileSystem
  told : List (Callback × Event Config)
  counts : List Count

namespace Workshop

variable {Config Callback : Type}

def of (store : ConfigStore Config Callback) (files : FileSystem) : Workshop Config Callback :=
  ⟨store, files, [], []⟩

def take (workshop : Workshop Config Callback) (outcome : Outcome Config) :
    Workshop Config Callback :=
  { workshop with
    store := { workshop.store with slots := outcome.slots }
    files := outcome.files
    counts := workshop.counts ++ outcome.counts }

def tell [BEq Config] (reaction : Callback → Option (Command Config)) :
    Nat → Workshop Config Callback → List (Callback × Event Config) → Workshop Config Callback
  | 0, workshop, _ => workshop
  | _, workshop, [] => workshop
  | limit + 1, workshop, (callback, event) :: rest =>
    let told := { workshop with told := workshop.told ++ [(callback, event)] }
    match reaction callback with
    | none => told.tell reaction limit rest
    | some command =>
      let outcome := told.store.backing.perform told.store.slots told.files command
      (told.take outcome).tell reaction limit (rest ++ told.store.calls outcome.announced)

/-- No operation that a subscriber may run commits twice, so few calls follow. -/
def limit (workshop : Workshop Config Callback) : Nat :=
  8 * (workshop.store.subscriptions.count + 1)

def settle [BEq Config] (workshop : Workshop Config Callback)
    (reaction : Callback → Option (Command Config)) (outcome : Outcome Config) :
    Workshop Config Callback :=
  (workshop.take outcome).tell reaction workshop.limit (workshop.store.calls outcome.announced)

def perform [BEq Config] (workshop : Workshop Config Callback)
    (reaction : Callback → Option (Command Config)) (command : Command Config) :
    Workshop Config Callback × Except ConfigError Answer :=
  let outcome := workshop.store.backing.perform workshop.store.slots workshop.files command
  (workshop.settle reaction outcome, outcome.result)

end Workshop

end LiveService
