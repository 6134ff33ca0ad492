import LiveService.Config.Validation
import LiveService.Http.MediaType
import LiveService.Http.Router
import LiveService.Http.Rpc
import LiveService.Net.Launch

/-!
What the service answers: its greeting, its health and its configuration, and remote calls if they are
mounted.
-/

namespace LiveService.Http

def plainText : String := "text/plain; charset=utf-8"

def document : String := "application/json"

def Response.ofDocument (value : Json) : Response := .ok document (Json.compactText value)

/-- The routes of a configuration; they keep answering with it as long as they are served. -/
def serviceRouter (config : ServiceConfig) : Router :=
  Router.empty
    |>.route "GET" "/" (fun _ => .ok plainText (Text.bytes config.greeting))
    |>.route "GET" "/health" (fun _ => .ofDocument (.object [("status", .text "ok")]))
    |>.route "GET" "/config" (fun _ => .ofDocument (ServiceConfig.codec.write config))

def largestBody : Nat := 2097152

def answerCall (request : Request) : Response :=
  if !((request.contentType.bind MediaType.ofText?).map MediaType.isDocument).getD false then .bare 415
  else if largestBody < request.body.length then .bare 413
  else
    match Rpc.Request.codec.decode request.body with
    | .error (.mismatch _) => .bare 422
    | .error _ => .bare 400
    | .ok call => .ofDocument (Rpc.Response.codec.write (Rpc.dispatch call))

def withCalls (router : Router) : Router := router.route "POST" "/rpc" answerCall

def servicePlan (config : ServiceConfig) : Except String (ServerPlan Router) :=
  match config.violations with
  | [] =>
    .ok ⟨config.listener.name, config.listener.bindAddress, config.listener.protocol,
      some (serviceRouter config), config.listener.tls⟩
  | violations => .error (Violation.report violations)

def serviceBlueprint : Blueprint ServiceConfig Router :=
  ⟨some servicePlan, some fun router => withCalls (router.getD Router.empty)⟩

end LiveService.Http
