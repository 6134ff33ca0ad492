import LiveService.Json.Record

/-!
A configuration of two fields, both of which a file has to give.
-/

namespace LiveService

structure AppConfig where
  addr : String
  workers : UInt32
  deriving DecidableEq

def AppConfig.codec : Codec AppConfig :=
  (Codec.record "App"
    (.cons (.required "addr" .text) <|
     .cons (.required "workers" .word32) .nil)).along
    (fun (addr, workers, ()) => ⟨addr, workers⟩)
    (fun config => (config.addr, config.workers, ()))

end LiveService
