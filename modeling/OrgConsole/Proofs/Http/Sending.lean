import OrgConsole.Http.Client
import OrgConsole.Proofs.Directory.Journal
/-!
# What a client sends

Beside any backend the requests that reach it can be kept. Whatever is asked of the directory behind a
client, and whatever the backend answers, there is one request for it, to the endpoint in question, or
none if no request can be made to that URL.
-/

namespace OrgConsole

variable {σ ε α β : Type}

/-! ## Endpoints -/

/-- What a backend has for each id of a kind. -/
inductive Resource
  | departmentEmployees
  | employeeDepartments
  | rolePermissions
deriving DecidableEq, Repr

namespace Resource

/-- The name that the ids stand after. -/
def collection : Resource → String
  | departmentEmployees => "departments"
  | employeeDepartments => "employees"
  | rolePermissions => "roles"

/-- The name that stands after an id. -/
def name : Resource → String
  | departmentEmployees => "employees"
  | employeeDepartments => "departments"
  | rolePermissions => "permissions"

end Resource

/-- What a backend can be asked for. -/
inductive Endpoint
  | orgTree
  | ofId (resource : Resource) (id : String)
deriving DecidableEq, Repr

def Endpoint.segments : Endpoint → List String
  | orgTree => ["org", "tree"]
  | ofId resource id => [resource.collection, id, resource.name]

namespace Request

def endpoint : Request → Endpoint
  | orgTree => .orgTree
  | departmentEmployees id => .ofId .departmentEmployees id
  | employeeDepartments id | saveEmployeeDepartments id _ => .ofId .employeeDepartments id
  | rolePermissions id | saveRolePermissions id _ => .ofId .rolePermissions id

def method : Request → Method
  | saveEmployeeDepartments .. | saveRolePermissions .. => .put
  | _ => .get

def body : Request → Option Json
  | saveEmployeeDepartments _ ms => some (.array (ms.map Wire.membershipJson))
  | saveRolePermissions _ groups => some (.array (groups.map Wire.groupJson))
  | _ => none

/-- Ask a directory and make nothing of its answer. -/
def ask (dir : Directory σ ε) : Request → Action σ ε Unit
  | orgTree => dir.orgTree >>= fun _ => pure ()
  | departmentEmployees id => dir.departmentEmployees id >>= fun _ => pure ()
  | employeeDepartments id => dir.employeeDepartments id >>= fun _ => pure ()
  | saveEmployeeDepartments id ms => dir.saveEmployeeDepartments id ms
  | rolePermissions id => dir.rolePermissions id >>= fun _ => pure ()
  | saveRolePermissions id groups => dir.saveRolePermissions id groups

end Request

/-! ## Watching a backend -/

/-- A backend and the requests that reached it. -/
structure Watched (σ : Type) where
  backend : σ
  requests : List HttpRequest

/-- The same way to a backend, watched. -/
def Transport.watched (send : Transport σ) : Transport (Watched σ) := fun q w =>
  let (response, backend) := send q w.backend
  (response, ⟨backend, w.requests ++ [q]⟩)

/-- The requests that reached a backend by the end of a step. -/
def requestsAfter : EStateM.Result ε (Session (Watched σ)) α → List HttpRequest
  | .ok _ s | .error _ s => s.backend.requests

/-- What a client sends when its directory is asked. -/
def Client.sent (c : Client) (send : Transport σ) (r : Request) (s : Session σ) : List HttpRequest :=
  requestsAfter (r.ask (c.directory send.watched) ⟨⟨s.backend, []⟩, s.events⟩)

/-- However it ends, the step sends these requests. -/
def Sends (x : Action (Watched σ) ε α) (qs : List HttpRequest) : Prop :=
  ∀ s, requestsAfter (x s) = s.backend.requests ++ qs

theorem sends_pure (a : α) : Sends (pure a : Action (Watched σ) ε α) [] := fun _ => (List.append_nil _).symm

theorem sends_ofExcept (r : Except ε α) : Sends (Action.ofExcept r : Action (Watched σ) ε α) [] := by
  intro s
  cases r <;> exact (List.append_nil _).symm

/-- Noting an event cannot fail, so what follows is sent. -/
theorem Sends.note {f : Unit → Action (Watched σ) ε α} {qs : List HttpRequest} (e : Event) (h : Sends (f ()) qs) :
    Sends (Action.note e >>= f) qs := by
  intro s
  rw [bind_eq_of_ok (note_eq_ok e s) f]
  exact h (s.noted e)

/-- What sends nothing may follow or not. -/
theorem Sends.bind {x : Action (Watched σ) ε α} {f : α → Action (Watched σ) ε β} {qs : List HttpRequest}
    (h : Sends x qs) (hf : ∀ a, Sends (f a) []) : Sends (x >>= f) qs := by
  intro s
  have hs := h s
  cases hx : x s with
  | ok a s' =>
    rw [hx] at hs
    rw [bind_eq_of_ok hx, hf a s', List.append_nil]
    exact hs
  | error e s' =>
    rw [hx] at hs
    rw [bind_eq_of_error hx]
    exact hs

namespace Client

variable (send : Transport σ) (c : Client)

/-- The request of an exchange, unless none can be made. -/
def requestsOf (method : Method) (segments : List String) (body : Option Json) : List HttpRequest :=
  if (c.endpoint segments).isSendable then [⟨method, c.endpoint segments, c.authorization, body⟩] else []

theorem sends_exchange (method : Method) (segments : List String) (body : Option Json) :
    Sends (exchange send.watched c method segments body) (c.requestsOf method segments body) := by
  refine Sends.note _ (Sends.bind ?_ fun response => Sends.note _ (sends_ofExcept _))
  intro s
  unfold Action.ask requestsOf
  cases (c.endpoint segments).isSendable with
  | false => exact (List.append_nil _).symm
  | true =>
    simp only [if_true, Transport.watched]
    cases send ⟨method, c.endpoint segments, c.authorization, body⟩ s.backend.backend with
    | mk response backend => cases response <;> rfl

theorem sends_fetch (read : Nat → Json → Wire.Reading α) (segments : List String) :
    Sends (fetch send.watched c read segments) (c.requestsOf .get segments none) := by
  refine (sends_exchange send c .get segments none).bind fun body => ?_
  split
  · exact sends_pure _
  · exact sends_ofExcept _

theorem sends_replace (segments : List String) (body : List Json) :
    Sends (replace send.watched c segments body) (c.requestsOf .put segments (some (.array body))) :=
  (sends_exchange send c .put segments _).bind fun _ => sends_pure _

/-- One request is sent for whatever is asked, or none. -/
theorem sent_eq (r : Request) (s : Session σ) :
    c.sent send r s = c.requestsOf r.method r.endpoint.segments r.body := by
  have hsends : Sends (r.ask (c.directory send.watched)) (c.requestsOf r.method r.endpoint.segments r.body) := by
    cases r with
    | orgTree | departmentEmployees | employeeDepartments | rolePermissions =>
      exact (sends_fetch send c _ _).bind fun _ => sends_pure ()
    | saveEmployeeDepartments | saveRolePermissions => exact sends_replace send c _ _
  exact (hsends _).trans (List.nil_append _)

end Client

end OrgConsole
