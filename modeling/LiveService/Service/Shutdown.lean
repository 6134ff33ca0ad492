/-!
Requests to shut down.  Whoever holds one can trigger it and wait for it; copies share the request, and
who starts to wait late still sees that it was triggered.
-/

namespace LiveService

structure ShutdownRequests where
  triggered : List Bool

namespace ShutdownRequests

def empty : ShutdownRequests := ⟨[]⟩

def add (requests : ShutdownRequests) : Nat × ShutdownRequests :=
  (requests.triggered.length, ⟨requests.triggered ++ [false]⟩)

def trigger (requests : ShutdownRequests) (number : Nat) : ShutdownRequests :=
  ⟨requests.triggered.set number true⟩

def isTriggered (requests : ShutdownRequests) (number : Nat) : Bool :=
  requests.triggered[number]?.getD false

end ShutdownRequests

end LiveService
