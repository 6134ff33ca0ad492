import LiveService.Text.Bytes

/-!
What subscribers are told.  A proposal is put to the objectors one after the other until one cancels
it; the other events start one call of each subscriber of their kind.
-/

namespace LiveService

inductive Source where
  | api
  | file
  | refresh
  deriving DecidableEq

def Source.word : Source → String
  | .api => "api"
  | .file => "file"
  | .refresh => "refresh"

inductive Event (Config : Type) where
  | modified (version : Nat) (previous current : Config) (source : Source)
  | restored (version : Nat) (restored discarded : Config)
  | canceled (reason : String)

def Event.word {Config : Type} : Event Config → String
  | .modified _ _ _ _ => "modified"
  | .restored _ _ _ => "restored"
  | .canceled _ => "canceled"

structure Proposal (Config : Type) where
  proposed : Config
  current : Config
  reason : Option String

namespace Proposal

variable {Config : Type}

def of (proposed current : Config) : Proposal Config := ⟨proposed, current, none⟩

def cancel (proposal : Proposal Config) (reason : String) : Proposal Config :=
  { proposal with reason := some reason }

def isCanceled (proposal : Proposal Config) : Bool := proposal.reason.isSome

end Proposal

structure Objector (Config : Type) where
  act : Proposal Config → Proposal Config
  panics : Proposal Config → Bool

def panicReason : String := "subscriber panicked"

/-- Puts a proposal to the objectors until one cancels it.  Gives also who was asked, with the proposal
as each of them left it. -/
def Proposal.putTo {Config : Type} (proposal : Proposal Config) :
    List (Nat × Objector Config) → Proposal Config × List (Nat × Proposal Config)
  | [] => (proposal, [])
  | (id, objector) :: rest =>
    let acted := objector.act proposal
    let judged := if objector.panics proposal then acted.cancel panicReason else acted
    if judged.isCanceled then (judged, [(id, acted)])
    else
      let (final, asked) := judged.putTo rest
      (final, (id, acted) :: asked)

structure Subscriptions (Config Callback : Type) where
  nextId : Nat
  modifying : List (Nat × Objector Config)
  canceled : List (Nat × Callback)
  modified : List (Nat × Callback)
  restored : List (Nat × Callback)

namespace Subscriptions

variable {Config Callback : Type}

def empty : Subscriptions Config Callback := ⟨1, [], [], [], []⟩

def onModifying (registry : Subscriptions Config Callback) (objector : Objector Config) :
    Nat × Subscriptions Config Callback :=
  (registry.nextId,
    { registry with
      nextId := registry.nextId + 1
      modifying := registry.modifying ++ [(registry.nextId, objector)] })

def onCanceled (registry : Subscriptions Config Callback) (callback : Callback) :
    Nat × Subscriptions Config Callback :=
  (registry.nextId,
    { registry with
      nextId := registry.nextId + 1
      canceled := registry.canceled ++ [(registry.nextId, callback)] })

def onModified (registry : Subscriptions Config Callback) (callback : Callback) :
    Nat × Subscriptions Config Callback :=
  (registry.nextId,
    { registry with
      nextId := registry.nextId + 1
      modified := registry.modified ++ [(registry.nextId, callback)] })

def onRestored (registry : Subscriptions Config Callback) (callback : Callback) :
    Nat × Subscriptions Config Callback :=
  (registry.nextId,
    { registry with
      nextId := registry.nextId + 1
      restored := registry.restored ++ [(registry.nextId, callback)] })

def without {Subscriber : Type} (id : Nat) (entries : List (Nat × Subscriber)) :
    Bool × List (Nat × Subscriber) :=
  let kept := entries.filter fun entry => entry.1 != id
  (kept.length != entries.length, kept)

def unsubscribe (registry : Subscriptions Config Callback) (id : Nat) :
    Bool × Subscriptions Config Callback :=
  let (inModifying, modifying) := without id registry.modifying
  if inModifying then (true, { registry with modifying := modifying })
  else
    let (inCanceled, canceled) := without id registry.canceled
    if inCanceled then (true, { registry with canceled := canceled })
    else
      let (inModified, modified) := without id registry.modified
      if inModified then (true, { registry with modified := modified })
      else
        let (inRestored, restored) := without id registry.restored
        (inRestored, { registry with restored := restored })

def count (registry : Subscriptions Config Callback) : Nat :=
  registry.modifying.length + registry.canceled.length + registry.modified.length +
    registry.restored.length

/-- The calls that an event starts; they run in any order, and none stops another. -/
def calls (registry : Subscriptions Config Callback) (event : Event Config) :
    List (Nat × Callback) :=
  match event with
  | .canceled _ => registry.canceled
  | .modified _ _ _ _ => registry.modified
  | .restored _ _ _ => registry.restored

end Subscriptions

end LiveService
