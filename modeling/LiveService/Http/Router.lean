import LiveService.Http.Message

/-!
Routers.  A route answers one method on one path; who may `GET` a path may also ask for the `HEAD` of
the answer.
-/

namespace LiveService.Http

structure Route where
  path : String
  method : String
  answer : Request → Response

abbrev Router := List Route

namespace Router

def empty : Router := []

def route (router : Router) (method path : String) (answer : Request → Response) : Router :=
  router ++ [⟨path, method, answer⟩]

def respond (router : Router) (request : Request) : Response :=
  let onPath := List.filter (fun route => route.path == request.path) router
  let served (method : String) : Option Response :=
    (onPath.find? fun route => route.method == method).map fun route => route.answer request
  match served request.method with
  | some response => response
  | none =>
    match if request.method == "HEAD" then served "GET" else none with
    | some response => { response with body := [] }
    | none =>
      if onPath.isEmpty then .bare 404
      else
        .notAllowed (onPath.flatMap fun route =>
          if route.method == "GET" then ["GET", "HEAD"] else [route.method])

end Router

end LiveService.Http
