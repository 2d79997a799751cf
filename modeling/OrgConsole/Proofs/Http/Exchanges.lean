import OrgConsole.Proofs.Http.Sending
/-!
# What a client is answered

Beside any backend the requests that reach it can be kept together with their answers. `Tells` says of a
step which value it ends with after which exchanges; steps in sequence are told by what each of them
tells.
-/

namespace OrgConsole

variable {σ ε ε' α β : Type}

/-- A request that reached a backend, and what it answered, if it did. -/
structure Exchange where
  request : HttpRequest
  answer : Option HttpResponse

namespace Exchange

/-- The request is to replace something. -/
def Writes (x : Exchange) : Prop :=
  x.request.method = .put

instance (x : Exchange) : Decidable x.Writes :=
  inferInstanceAs (Decidable (x.request.method = .put))

/-- The body of an answer of the two hundreds. -/
def accepted? (x : Exchange) : Option String :=
  x.answer.bind fun r => if 200 ≤ r.status && r.status < 300 then some r.body else none

/-- The records that an answer of the two hundreds brings, if its body can be read. -/
def brings? (x : Exchange) (read : Nat → Json → Wire.Reading α) : Option α :=
  x.accepted?.bind fun body => (Wire.readText read body).toOption

end Exchange

/-! ## Recording a backend -/

/-- A backend and the exchanges with it. -/
structure Recorded (σ : Type) where
  backend : σ
  exchanges : List Exchange

/-- The same way to a backend, recorded. -/
def Transport.recorded (send : Transport σ) : Transport (Recorded σ) := fun q w =>
  let (answer, backend) := send q w.backend
  (answer, ⟨backend, w.exchanges ++ [⟨q, answer⟩]⟩)

/-- The value of a step that does not fail. -/
def valueOf : EStateM.Result ε (Session σ) α → Option α
  | .ok a _ => some a
  | .error _ _ => none

/-- The exchanges with a backend by the end of a step. -/
def exchangesAfter : EStateM.Result ε (Session (Recorded σ)) α → List Exchange
  | .ok _ s | .error _ s => s.backend.exchanges

/-- The value of the step, if it does not fail, and the exchanges that it makes are as `P` says. -/
def Tells (x : Action (Recorded σ) ε α) (P : Option α → List Exchange → Prop) : Prop :=
  ∀ s, ∃ log, exchangesAfter (x s) = s.backend.exchanges ++ log ∧ P (valueOf (x s)) log

section Tells

variable {x : Action (Recorded σ) ε α} {f : α → Action (Recorded σ) ε β} {P : Option α → List Exchange → Prop}
  {R : Option β → List Exchange → Prop}

theorem tells_pure (a : α) (h : P (some a) []) : Tells (pure a : Action (Recorded σ) ε α) P :=
  fun _ => ⟨[], (List.append_nil _).symm, h⟩

theorem Tells.mono {Q : Option α → List Exchange → Prop} (h : Tells x P) (hPQ : ∀ r log, P r log → Q r log) :
    Tells x Q := by
  intro s
  obtain ⟨log, hlog, hP⟩ := h s
  exact ⟨log, hlog, hPQ _ _ hP⟩

/-- A step that fails otherwise is told alike. -/
theorem Tells.mapFailure (h : Tells x P) (g : ε → ε') : Tells (x.mapFailure g) P := by
  intro s
  obtain ⟨log, hlog, hP⟩ := h s
  refine ⟨log, ?_, ?_⟩
  · rw [Action.mapFailure, ← hlog]
    cases x s <;> rfl
  · rw [Action.mapFailure]
    cases hx : x s <;> rwa [hx] at hP

theorem Tells.lift (h : Tells x P) : Tells (Directory.lift x) P :=
  h.mapFailure Failure.directory

/-- What follows a step is told by the exchanges of both, and a step that fails is the last. -/
theorem Tells.bind (hx : Tells x P) (hnone : ∀ log, P none log → R none log)
    (hsome : ∀ a log, P (some a) log → Tells (f a) fun r more => R r (log ++ more)) : Tells (x >>= f) R := by
  intro s
  obtain ⟨log, hlog, hP⟩ := hx s
  cases hxs : x s with
  | ok a s' =>
    rw [hxs] at hlog hP
    obtain ⟨more, hmore, hR⟩ := hsome a log hP s'
    have hbefore : s'.backend.exchanges = s.backend.exchanges ++ log := hlog
    rw [bind_eq_of_ok hxs]
    exact ⟨log ++ more, by rw [hmore, hbefore, List.append_assoc], hR⟩
  | error e s' =>
    rw [hxs] at hlog hP
    rw [bind_eq_of_error hxs]
    exact ⟨log, hlog, hnone log hP⟩

/-- Noting an event makes no exchange. -/
theorem Tells.note {f : Unit → Action (Recorded σ) ε β} (e : Event) (h : Tells (f ()) R) :
    Tells (Action.note e >>= f) R := by
  intro s
  rw [bind_eq_of_ok (note_eq_ok e s) f]
  exact h (s.noted e)

theorem tells_ofExcept (r : Except ε α) (h : P r.toOption []) : Tells (Action.ofExcept r : Action (Recorded σ) ε α) P := by
  intro s
  refine ⟨[], ?_, ?_⟩
  · cases r <;> exact (List.append_nil _).symm
  · cases r <;> exact h

theorem Tells.ite {p : Prop} [Decidable p] {x' : Action (Recorded σ) ε α} (h : Tells x P) (h' : Tells x' P) :
    Tells (if p then x else x') P := by
  split
  · exact h
  · exact h'

/-- A check makes no exchange, and where it fails it is the last step. -/
theorem Tells.check {r : Except ε' α} {g : ε' → ε} (herror : ∀ e, r = .error e → R none [])
    (hok : ∀ a, r = .ok a → Tells (f a) R) : Tells ((Action.ofExcept r).mapFailure g >>= f) R := by
  intro s
  cases r with
  | error e =>
    have hfails : (Action.ofExcept (.error e : Except ε' α)).mapFailure g s = .error (g e) s := rfl
    rw [bind_eq_of_error hfails]
    exact ⟨[], (List.append_nil _).symm, herror e rfl⟩
  | ok a =>
    have hpasses : (Action.ofExcept (.ok a : Except ε' α)).mapFailure g s = .ok a s := rfl
    rw [bind_eq_of_ok hpasses]
    exact hok a rfl s

/-! ## One request -/

/-- One request is made and the value read off the exchange, or none can be made. -/
inductive Asks (q : HttpRequest) (g : Exchange → Option α) : Option α → List Exchange → Prop
  | unsent : Asks q g none []
  | sent {y : Exchange} {r : Option α} (request : y.request = q) (value : g y = r) : Asks q g r [y]

variable {q : HttpRequest} {g : Exchange → Option α}

/-- What follows a request begins after its exchange. -/
theorem Tells.ask_bind (hx : Tells x (Asks q g)) (hunsent : R none [])
    (hnone : ∀ y, y.request = q → g y = none → R none [y])
    (hsome : ∀ y a, y.request = q → g y = some a → Tells (f a) fun r log => R r (y :: log)) : Tells (x >>= f) R := by
  refine hx.bind ?_ ?_
  · intro log h
    cases h with
    | unsent => exact hunsent
    | sent request value => exact hnone _ request value
  · intro a log h
    cases h with
    | sent request value => exact hsome _ a request value

/-- What makes no exchange after a request only changes the value. -/
theorem Tells.ask_then {h : α → Option β} (hx : Tells x (Asks q g))
    (hf : ∀ a, Tells (f a) fun r log => r = h a ∧ log = []) : Tells (x >>= f) (Asks q fun y => (g y).bind h) := by
  refine hx.ask_bind .unsent (fun y hy hnone => .sent hy (by rw [hnone]; rfl)) fun y a hy hsome => ?_
  refine (hf a).mono ?_
  rintro _ _ ⟨rfl, rfl⟩
  exact .sent hy (by rw [hsome]; rfl)

end Tells

/-! ## The client -/

namespace Client

variable (send : Transport σ) (c : Client)

/-- The request that is sent when the directory is asked. -/
def request (r : Request) : HttpRequest :=
  ⟨r.method, c.endpoint r.endpoint.segments, c.authorization, r.body⟩

theorem toOption_check (path : String) {y : Exchange} {r : HttpResponse} (h : y.answer = some r) :
    (check path r).toOption = y.accepted? := by
  rw [Exchange.accepted?, h, Option.bind_some, check]
  split
  · rfl
  · split <;> rfl

theorem tells_exchange (method : Method) (segments : List String) (body : Option Json) :
    Tells (exchange send.recorded c method segments body)
      (Asks ⟨method, c.endpoint segments, c.authorization, body⟩ Exchange.accepted?) := by
  refine Tells.note _ (Tells.ask_bind (q := ⟨method, c.endpoint segments, c.authorization, body⟩)
    (g := Exchange.answer) ?ask .unsent ?_ ?_)
  case ask =>
    intro s
    unfold Action.ask
    cases (c.endpoint segments).isSendable with
    | false => exact ⟨[], (List.append_nil _).symm, .unsent⟩
    | true =>
      simp only [if_true, Transport.recorded]
      cases send ⟨method, c.endpoint segments, c.authorization, body⟩ s.backend.backend with
      | mk answer backend => cases answer <;> exact ⟨[_], rfl, .sent rfl rfl⟩
  · intro y hy hnone
    exact .sent hy (by rw [Exchange.accepted?, hnone]; rfl)
  · intro y r hy hsome
    exact Tells.note _ (tells_ofExcept _ (.sent hy (toOption_check _ hsome).symm))

theorem tells_fetch (read : Nat → Json → Wire.Reading α) (segments : List String) :
    Tells (fetch send.recorded c read segments)
      (Asks ⟨.get, c.endpoint segments, c.authorization, none⟩ (·.brings? read)) := by
  refine (tells_exchange send c .get segments none).ask_then fun body => ?_
  cases Wire.readText read body with
  | ok a => exact tells_pure a ⟨rfl, rfl⟩
  | error refusal => exact tells_ofExcept _ ⟨rfl, rfl⟩

theorem tells_replace (segments : List String) (body : List Json) :
    Tells (replace send.recorded c segments body)
      (Asks ⟨.put, c.endpoint segments, c.authorization, some (.array body)⟩ fun y => y.accepted?.bind fun _ => some ()) :=
  (tells_exchange send c .put segments _).ask_then fun _ => tells_pure () ⟨rfl, rfl⟩

end Client

end OrgConsole
