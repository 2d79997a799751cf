import OrgConsole.Http.Client
import OrgConsole.Json.Printer
/-!
# A backend of routes

A backend that answers from a list of routes and remembers what it was asked. It can keep what is
put to it, so that it is then what is read.
-/

namespace OrgConsole

/-- What a backend answers to a method and a target. -/
structure Route where
  method : Method
  target : String
  status : Nat
  body : String
deriving DecidableEq, Repr

/-- A backend of routes. -/
structure RouteBackend where
  routes : List Route
  /-- Whether an accepted body replaces what the same target answers. -/
  keeps : Bool
  requests : List HttpRequest

namespace RouteBackend

/-- The first route of a method and a target. -/
def route? (b : RouteBackend) (method : Method) (target : String) : Option Route :=
  b.routes.find? fun r => r.method = method && r.target = target

/-- Statuses whose answers have no body. -/
def isBodiless (status : Nat) : Bool :=
  status < 200 || status = 204 || status = 304

/-- The routes with another body at the first that can be read at a target. -/
def putBody (target body : String) : List Route → List Route
  | [] => []
  | r :: rest =>
    if r.method = .get && r.target = target then { r with body := body } :: rest else r :: putBody target body rest

/-- The answer to a request. -/
def answer (b : RouteBackend) (q : HttpRequest) : HttpResponse :=
  match b.route? q.method q.url.target with
  | some r => ⟨r.status, if isBodiless r.status then "" else r.body⟩
  | none => ⟨404, ""⟩

/-- The backend after it answered a request with a status. -/
def after (b : RouteBackend) (q : HttpRequest) (status : Nat) : RouteBackend :=
  let accepted := 200 ≤ status && status < 300
  let routes :=
    match q.method, q.body with
    | .put, some body => if b.keeps && accepted then putBody q.url.target body.compress b.routes else b.routes
    | _, _ => b.routes
  { b with routes := routes, requests := b.requests ++ [q] }

/-- Requests that are all answered. -/
def send : Transport RouteBackend := fun q b =>
  let response := b.answer q
  (some response, b.after q response.status)

/-- Requests that are all refused. -/
def refuse : Transport RouteBackend := fun _ b => (none, b)

end RouteBackend

end OrgConsole
