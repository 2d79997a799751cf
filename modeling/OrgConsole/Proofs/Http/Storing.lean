import OrgConsole.Http.Routes
import OrgConsole.Proofs.Directory.Journal
import OrgConsole.Proofs.Directory.Keeping
import OrgConsole.Proofs.Wire.RoundTrip
/-!
# What is kept behind a client

A client asks for the records of an id at one URL and puts them there. So the directory behind it keeps under
the id what the backend stores at that URL. Two ids may have one URL, and then they share what is stored. A
backend of routes stores whatever JSON it is sent at a target that can be read and written.
-/

namespace OrgConsole

variable {σ α β : Type}

/-- An answer of the two hundreds. -/
def HttpResponse.IsAccepted (r : HttpResponse) : Prop :=
  200 ≤ r.status ∧ r.status < 300

/-- Requests to one URL. While the backend works, records that are put there are in place from then on, and a request
for them leaves them alone and is answered with a text that they are read from. Neither touches what is
`elsewhere`. -/
structure Transport.Stores (send : Transport σ) (url : Url) (authorization : Option String)
    (read : Nat → Json → Wire.Reading α) (json : α → Json) (works : σ → Prop) (contents : σ → Option α)
    (elsewhere : σ → β) : Prop where
  get_ok : ∀ (b : σ) (a : α), works b → contents b = some a →
    ∃ r b', send ⟨.get, url, authorization, none⟩ b = (some r, b') ∧ r.IsAccepted ∧
      Wire.readText read r.body = .ok a ∧ works b' ∧ contents b' = some a ∧ elsewhere b' = elsewhere b
  put_ok : ∀ (b : σ) (a : α), works b →
    ∃ r b', send ⟨.put, url, authorization, some (json a)⟩ b = (some r, b') ∧ r.IsAccepted ∧
      works b' ∧ contents b' = some a ∧ elsewhere b' = elsewhere b

/-! ## The client -/

namespace Client

variable {send : Transport σ} {c : Client} {segments : List String} {works : σ → Prop} {elsewhere : σ → β}

theorem check_of_isAccepted {r : HttpResponse} (h : r.IsAccepted) (path : String) : check path r = .ok r.body := by
  have htwo : (decide (200 ≤ r.status) && decide (r.status < 300)) = true := by simpa using And.intro h.1 h.2
  rw [check, if_pos htwo]

/-- An accepted answer ends an exchange with its body. -/
theorem exchange_eq_ok {method : Method} {body : Option Json} {s : Session σ} {r : HttpResponse} {b : σ}
    (hsendable : (c.endpoint segments).isSendable = true)
    (hsend : send ⟨method, c.endpoint segments, c.authorization, body⟩ s.backend = (some r, b)) (h : r.IsAccepted) :
    ∃ events, exchange send c method segments body s = .ok r.body ⟨b, events⟩ := by
  let path := (c.endpoint segments).pathString
  refine ⟨s.events ++ [.request method path] ++ [.response path r.status], ?_⟩
  rw [exchange, bind_eq_of_ok (note_eq_ok _ _), bind_eq_of_ok (ask_eq_ok (a := r) (b := b) ?answer),
    bind_eq_of_ok (note_eq_ok _ _), check_of_isAccepted h]
  · rfl
  case answer =>
    have hsend' : send ⟨method, c.endpoint segments, c.authorization, body⟩ (s.noted (.request method path)).backend =
        (some r, b) := hsend
    rw [if_pos hsendable, hsend']

/-- Behind a client a list is kept that is stored at its URL. -/
theorem keeps_of_stores {json : α → Json} {contents : σ → Option (List α)} {read : Nat → Json → Wire.Reading (List α)}
    (hsendable : (c.endpoint segments).isSendable = true)
    (h : send.Stores (c.endpoint segments) c.authorization read (fun as => .array (as.map json)) works contents elsewhere) :
    Keeps (fetch send c read segments) (fun as => replace send c segments (as.map json)) works contents id elsewhere where
  read_ok s as hworks hcontents := by
    obtain ⟨r, b, hsend, haccepted, hread, hkept⟩ := h.get_ok s.backend as hworks hcontents
    obtain ⟨events, hexchange⟩ := exchange_eq_ok hsendable hsend haccepted
    refine ⟨⟨b, events⟩, ?_, hkept⟩
    rw [fetch, bind_eq_of_ok hexchange, hread]
    rfl
  write_ok s as hworks := by
    obtain ⟨r, b, hsend, haccepted, hkept⟩ := h.put_ok s.backend as hworks
    obtain ⟨events, hexchange⟩ := exchange_eq_ok hsendable hsend haccepted
    exact ⟨⟨b, events⟩, bind_eq_of_ok hexchange _, hkept⟩

/-- The memberships of an employee are kept if they are stored. -/
theorem keeps_memberships {employeeId : String} {contents : σ → Option (List Membership)}
    (hsendable : (c.endpoint ["employees", employeeId, "departments"]).isSendable = true)
    (h : send.Stores (c.endpoint ["employees", employeeId, "departments"]) c.authorization Wire.memberships
      (fun ms => .array (ms.map Wire.membershipJson)) works contents elsewhere) :
    Keeps ((directory send c).employeeDepartments employeeId) ((directory send c).saveEmployeeDepartments employeeId)
      works contents id elsewhere :=
  keeps_of_stores hsendable h

/-- The template of a role is kept if it is stored. -/
theorem keeps_template {role : String} {contents : σ → Option (List PermissionGroup)}
    (hsendable : (c.endpoint ["roles", role, "permissions"]).isSendable = true)
    (h : send.Stores (c.endpoint ["roles", role, "permissions"]) c.authorization Wire.groups
      (fun groups => .array (groups.map Wire.groupJson)) works contents elsewhere) :
    Keeps ((directory send c).rolePermissions role) ((directory send c).saveRolePermissions role)
      works contents id elsewhere :=
  keeps_of_stores hsendable h

end Client

/-! ## A backend of routes -/

namespace RouteBackend

/-- The target can be read and written, and what is written is kept. -/
structure Serves (target : String) (b : RouteBackend) : Prop where
  keeps : b.keeps = true
  read : ∃ r, b.route? .get target = some r ∧ (200 ≤ r.status ∧ r.status < 300) ∧ isBodiless r.status = false
  write : ∃ r, b.route? .put target = some r ∧ 200 ≤ r.status ∧ r.status < 300

/-- The records that are read at a target. -/
def recordsAt (read : Nat → Json → Wire.Reading α) (target : String) (b : RouteBackend) : Option α :=
  (b.route? .get target).bind fun r => (Wire.readText read r.body).toOption

theorem find?_putBody_self (target body : String) (routes : List Route) :
    (putBody target body routes).find? (fun r => r.method = .get && r.target = target) =
      (routes.find? fun r => r.method = .get && r.target = target).map fun r => { r with body := body } := by
  induction routes with
  | nil => rfl
  | cons r rest ih =>
    by_cases hr : r.method = .get ∧ r.target = target
    · simp [putBody, hr]
    · simp [putBody, hr, ih]

theorem find?_putBody_of_ne {target other : String} {method : Method} (h : ¬(method = .get ∧ other = target))
    (body : String) (routes : List Route) :
    (putBody target body routes).find? (fun r => r.method = method && r.target = other) =
      routes.find? fun r => r.method = method && r.target = other := by
  induction routes with
  | nil => rfl
  | cons r rest ih =>
    by_cases hr : r.method = .get ∧ r.target = target
    · have hother : (decide (Method.get = method) && decide (target = other)) = false := by
        rw [← Bool.decide_and, decide_eq_false_iff_not]
        exact fun hsame => h ⟨hsame.1.symm, hsame.2.symm⟩
      simp only [putBody, hr, decide_true, Bool.and_self, if_true, List.find?_cons, hother]
    · simp [putBody, List.find?_cons, hr, ih]

/-- What is put at a target is what is read there from then on; all other routes stay. -/
theorem stores (url : Url) (authorization : Option String) {read : Nat → Json → Wire.Reading α} {json : α → Json}
    (h : ∀ a, Wire.readText read (json a).compress = .ok a) :
    send.Stores url authorization read json (Serves url.target) (recordsAt read url.target)
      fun b (other : {other // other ≠ url.target}) => b.route? .get other.1 where
  get_ok b a hserves hrecords := by
    obtain ⟨hkeeps, ⟨r, hr, haccepted, hbody⟩, hwrite⟩ := hserves
    have hread : Wire.readText read r.body = .ok a := by
      rw [recordsAt, hr, Option.bind_some] at hrecords
      cases hparsed : Wire.readText read r.body with
      | error refusal =>
        rw [hparsed] at hrecords
        cases hrecords
      | ok a' =>
        rw [hparsed] at hrecords
        exact congrArg Except.ok (Option.some.inj hrecords)
    refine ⟨⟨r.status, r.body⟩, { b with requests := b.requests ++ [⟨.get, url, authorization, none⟩] }, ?_, haccepted,
      hread, ⟨hkeeps, ⟨r, hr, haccepted, hbody⟩, hwrite⟩, hrecords, rfl⟩
    simp [send, answer, after, hr, hbody]
  put_ok b a hserves := by
    obtain ⟨hkeeps, ⟨r, hr, haccepted, hbody⟩, ⟨w, hw, hwritten⟩⟩ := hserves
    let stored := putBody url.target (json a).compress b.routes
    let b' : RouteBackend := ⟨stored, b.keeps, b.requests ++ [⟨.put, url, authorization, some (json a)⟩]⟩
    have hr' : b'.route? .get url.target = some { r with body := (json a).compress } :=
      (find?_putBody_self _ _ _).trans (congrArg _ hr)
    have hw' : b'.route? .put url.target = some w := (find?_putBody_of_ne (by simp) _ _).trans hw
    refine ⟨⟨w.status, if isBodiless w.status then "" else w.body⟩, b', ?_, hwritten,
      ⟨hkeeps, ⟨_, hr', haccepted, hbody⟩, ⟨w, hw', hwritten⟩⟩, ?_, ?_⟩
    · simp [send, answer, after, hw, hkeeps, hwritten, b', stored]
    · rw [recordsAt, hr', Option.bind_some, h]
      rfl
    · funext other
      exact find?_putBody_of_ne (fun hsame => other.2 hsame.2) _ _

/-- A backend that keeps what it has at one target, a text to begin with. -/
def keeping (target text : String) : RouteBackend :=
  ⟨[⟨.get, target, 200, text⟩, ⟨.put, target, 204, ""⟩], true, []⟩

theorem route?_get_keeping (target text : String) :
    (keeping target text).route? .get target = some ⟨.get, target, 200, text⟩ := by
  simp [route?, keeping]

theorem serves_keeping (target text : String) : Serves target (keeping target text) where
  keeps := rfl
  read := ⟨_, route?_get_keeping target text, by simp, rfl⟩
  write := ⟨⟨.put, target, 204, ""⟩, by simp [route?, keeping], by simp⟩

theorem recordsAt_keeping {read : Nat → Json → Wire.Reading α} {text : String} {a : α}
    (h : Wire.readText read text = .ok a) (target : String) : recordsAt read target (keeping target text) = some a := by
  rw [recordsAt, route?_get_keeping, Option.bind_some, h]
  rfl

end RouteBackend

end OrgConsole
