import LiveService.Json.Document

/-!
Remote calls: a request names a method, and the response carries either a result or an error.
-/

namespace LiveService.Rpc

structure Request where
  method : String
  params : Json
  id : Json

structure Error where
  code : Int64
  message : String
  deriving DecidableEq

structure Response where
  version : String
  id : Json
  result : Option Json
  error : Option Error

def methods : List String := ["ping", "echo", "rpc.methods"]

def methodNotFound : Int64 := -32601

def protocolVersion : String := "2.0"

def dispatch (request : Request) : Response :=
  let succeed (result : Json) : Response := ⟨protocolVersion, request.id, some result, none⟩
  match request.method with
  | "ping" => succeed (.text "pong")
  | "echo" => succeed request.params
  | "rpc.methods" => succeed (.array (methods.map Json.text))
  | other =>
    ⟨protocolVersion, request.id, none, some ⟨methodNotFound, "method not found: " ++ other⟩⟩

def Request.codec : Codec Request :=
  (Codec.record "RpcRequest"
    (.cons (.required "method" .text) <|
     .cons (.withDefault "params" .any .null) <|
     .cons (.withDefault "id" .any .null) .nil)).along
    (fun (method, params, id, ()) => ⟨method, params, id⟩)
    (fun request => (request.method, request.params, request.id, ()))

def Error.codec : Codec Error :=
  (Codec.record "RpcError"
    (.cons (.required "code" .signed64) <|
     .cons (.required "message" .text) .nil)).along
    (fun (code, message, ()) => ⟨code, message⟩)
    (fun error => (error.code, error.message, ()))

def Response.codec : Codec Response :=
  (Codec.record "RpcResponse"
    (.cons (.required "jsonrpc" .text) <|
     .cons (.required "id" .any) <|
     .cons (.whenPresent "result" .any) <|
     .cons (.whenPresent "error" Error.codec) .nil)).along
    (fun (version, id, result, error, ()) => ⟨version, id, result, error⟩)
    (fun response => (response.version, response.id, response.result, response.error, ()))

end LiveService.Rpc
