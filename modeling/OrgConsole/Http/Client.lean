import OrgConsole.Directory.Basic
import OrgConsole.Http.Base64
import OrgConsole.Http.Url.Reader
import OrgConsole.Wire.Nodes
/-!
# A directory over HTTP

Each question to the directory is one request to a URL below the base URL, with credentials if there
is a user. An answer of the two hundreds is read as JSON; every other answer is a failure, and so is
none at all.
-/

namespace OrgConsole

/-- What it takes to reach a backend. -/
structure ApiConfig where
  baseUrl : String
  username : String
  password : String
deriving DecidableEq, Repr

/-! ## Requests and answers -/

structure HttpRequest where
  method : Method
  url : Url
  authorization : Option String
  body : Option Json

/-- An answer. A body is text: bodies that are not UTF-8 are left out. -/
structure HttpResponse where
  status : Nat
  body : String
deriving DecidableEq, Repr

/-- How requests get to a backend of state `σ`; no answer means that it refuses. -/
abbrev Transport (σ : Type) := HttpRequest → σ → Option HttpResponse × σ

/-- Why there is no answer to a request. -/
inductive NoAnswer
  /-- No request can be made to the URL. -/
  | unsendable
  /-- The backend refuses. -/
  | refused
deriving DecidableEq, Repr

def NoAnswer.message : NoAnswer → String
  | unsendable => "builder error"
  | refused => "error sending request"

/-- How a directory over HTTP fails. -/
inductive ClientFailure
  | invalidBaseUrl (url : String)
  | noAnswer (method : Method) (url : Url) (why : NoAnswer)
  | notFound (path : String)
  | status (status : Nat) (body : String)
  | unreadable (path : String)
deriving DecidableEq, Repr

def ClientFailure.message : ClientFailure → String
  | invalidBaseUrl url => "invalid base URL " ++ Text.quoted url
  | noAnswer method url why =>
    method.name ++ " " ++ url.pathString ++ " failed: " ++ why.message ++ " for url (" ++ url.textWithoutUser ++ ")"
  | notFound path => "not found: " ++ path
  | status n body => "API error (status " ++ toString n ++ "): " ++ body
  | unreadable path => "deserialising " ++ path ++ ": error decoding response body"

/-! ## The client -/

/-- Where the backend is, and who asks. -/
structure Client where
  base : Url
  username : String
  password : String
deriving DecidableEq, Repr

namespace Client

/-- The client for a configuration, if the base URL can be read. -/
def ofConfig (config : ApiConfig) : Except ClientFailure Client :=
  match Url.read? config.baseUrl with
  | some base => .ok ⟨base, config.username, config.password⟩
  | none => .error (.invalidBaseUrl config.baseUrl)

/-- The header of a name and a password. -/
def basic (name password : String) : String :=
  String.ofList ("Basic ".toList ++ Base64.encode (name ++ ":" ++ password).toUTF8.toList)

/-- The credentials of a request: those of the base URL, else the user's, if there is one. -/
def authorization (c : Client) : Option String :=
  let decoded (s : String) : String :=
    (String.fromUTF8? ⟨(PercentEncoding.decode s.toList).toArray⟩).getD ""
  match c.base.userInfo with
  | some (name, password) => some (basic (decoded name) (decoded (password.getD "")))
  | none => if c.username.isEmpty then none else some (basic c.username c.password)

/-- The URL of an endpoint. -/
def endpoint (c : Client) (segments : List String) : Url :=
  c.base.join ("api" :: segments)

/-- An answer as the text of its body, or as a failure. -/
def check (path : String) (r : HttpResponse) : Except ClientFailure String :=
  if 200 ≤ r.status && r.status < 300 then .ok r.body
  else if r.status = 404 then .error (.notFound path)
  else .error (.status r.status r.body)

variable {σ : Type} (send : Transport σ) (c : Client)

/-- Make a request and check the answer. -/
def exchange (method : Method) (segments : List String) (body : Option Json) : Action σ ClientFailure String := do
  let url := c.endpoint segments
  let path := url.pathString
  Action.note (.request method path)
  let response ← Action.ask fun backend =>
    if url.isSendable then
      match send ⟨method, url, c.authorization, body⟩ backend with
      | (some response, backend) => (.ok response, backend)
      | (none, backend) => (.error (.noAnswer method url .refused), backend)
    else (.error (.noAnswer method url .unsendable), backend)
  Action.note (.response path response.status)
  Action.ofExcept (check path response)

/-- Ask for records. -/
def fetch {α : Type} (read : Nat → Json → Wire.Reading α) (segments : List String) : Action σ ClientFailure α := do
  let body ← exchange send c .get segments none
  match Wire.readText read body with
  | .ok a => return a
  | .error _ => Action.ofExcept (.error (.unreadable (c.endpoint segments).pathString))

/-- Replace records. -/
def replace (segments : List String) (body : List Json) : Action σ ClientFailure Unit := do
  let _ ← exchange send c .put segments (some (.array body))

/-- The directory behind a client. -/
def directory : Directory σ ClientFailure where
  orgTree := fetch send c Wire.nodes ["org", "tree"]
  departmentEmployees id := fetch send c Wire.employees ["departments", id, "employees"]
  employeeDepartments id := fetch send c Wire.memberships ["employees", id, "departments"]
  saveEmployeeDepartments id ms := replace send c ["employees", id, "departments"] (ms.map Wire.membershipJson)
  rolePermissions id := fetch send c Wire.groups ["roles", id, "permissions"]
  saveRolePermissions id groups := replace send c ["roles", id, "permissions"] (groups.map Wire.groupJson)

end Client

end OrgConsole
