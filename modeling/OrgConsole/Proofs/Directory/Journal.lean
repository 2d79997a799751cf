import OrgConsole.Directory.Workflow
/-!
# What a directory is asked

Around any directory a journal can be kept of all that it is asked, whether it complies or not. Nothing
else changes by that: `requestsOf` reads off a journal what a conversation asks of a directory, and
`Transparent` says that the conversation is the same without one.
-/

namespace OrgConsole

variable {σ ε ε' α β : Type}

/-- Something that a directory is asked. -/
inductive Request
  | orgTree
  | departmentEmployees (departmentId : String)
  | employeeDepartments (employeeId : String)
  | saveEmployeeDepartments (employeeId : String) (ms : List Membership)
  | rolePermissions (roleId : String)
  | saveRolePermissions (roleId : String) (groups : List PermissionGroup)
deriving DecidableEq, Repr

/-- A backend and what it was asked so far. -/
structure Journaled (σ : Type) where
  backend : σ
  requests : List Request

namespace Session

/-- The session with a journal. -/
def withJournal (s : Session σ) (requests : List Request) : Session (Journaled σ) :=
  ⟨⟨s.backend, requests⟩, s.events⟩

/-- The session without its journal. -/
def plain (s : Session (Journaled σ)) : Session σ :=
  ⟨s.backend.backend, s.events⟩

def requests (s : Session (Journaled σ)) : List Request :=
  s.backend.requests

/-- The session after one more event. -/
def noted (s : Session σ) (e : Event) : Session σ :=
  { s with events := s.events ++ [e] }

end Session

/-- The same step, entered in the journal. -/
def Action.journaled (r : Request) (x : Action σ ε α) : Action (Journaled σ) ε α := fun s =>
  match x s.plain with
  | .ok a s' => .ok a (s'.withJournal (s.requests ++ [r]))
  | .error e s' => .error e (s'.withJournal (s.requests ++ [r]))

namespace Directory

/-- The same directory with a journal. -/
def journaled (dir : Directory σ ε) : Directory (Journaled σ) ε where
  orgTree := Action.journaled .orgTree dir.orgTree
  departmentEmployees id := Action.journaled (.departmentEmployees id) (dir.departmentEmployees id)
  employeeDepartments id := Action.journaled (.employeeDepartments id) (dir.employeeDepartments id)
  saveEmployeeDepartments id ms :=
    Action.journaled (.saveEmployeeDepartments id ms) (dir.saveEmployeeDepartments id ms)
  rolePermissions id := Action.journaled (.rolePermissions id) (dir.rolePermissions id)
  saveRolePermissions id groups := Action.journaled (.saveRolePermissions id groups) (dir.saveRolePermissions id groups)

/-- What a conversation asks of a directory, in order. -/
def requestsOf (dir : Directory σ ε) (conversation : Directory (Journaled σ) ε → Action (Journaled σ) ε' α)
    (s : Session σ) : List Request :=
  match conversation dir.journaled (s.withJournal []) with
  | .ok _ s' | .error _ s' => s'.requests

end Directory

/-! ## Steps -/

theorem bind_eq_of_ok {x : Action σ ε α} {s s' : Session σ} {a : α} (h : x s = .ok a s') (f : α → Action σ ε β) :
    (x >>= f) s = f a s' := by
  show EStateM.bind x f s = f a s'
  rw [EStateM.bind, h]

theorem bind_eq_of_error {x : Action σ ε α} {s s' : Session σ} {e : ε} (h : x s = .error e s')
    (f : α → Action σ ε β) : (x >>= f) s = .error e s' := by
  show EStateM.bind x f s = .error e s'
  rw [EStateM.bind, h]

theorem note_eq_ok (e : Event) (s : Session σ) : (Action.note e : Action σ ε Unit) s = .ok () (s.noted e) := rfl

theorem ask_eq_ok {f : σ → Except ε α × σ} {s : Session σ} {a : α} {b : σ} (h : f s.backend = (.ok a, b)) :
    Action.ask f s = .ok a { s with backend := b } := by
  rw [Action.ask, h]

theorem mapFailure_eq_ok {x : Action σ ε α} {s s' : Session σ} {a : α} (h : x s = .ok a s') (f : ε → ε') :
    x.mapFailure f s = .ok a s' := by
  rw [Action.mapFailure, h]

theorem mapFailure_eq_error {x : Action σ ε α} {s s' : Session σ} {e : ε} (h : x s = .error e s') (f : ε → ε') :
    x.mapFailure f s = .error (f e) s' := by
  rw [Action.mapFailure, h]

theorem lift_eq_ok {x : Action σ ε α} {s s' : Session σ} {a : α} (h : x s = .ok a s') :
    Directory.lift x s = .ok a s' :=
  mapFailure_eq_ok h _

theorem lift_eq_error {x : Action σ ε α} {s s' : Session σ} {e : ε} (h : x s = .error e s') :
    Directory.lift x s = .error (.directory e) s' :=
  mapFailure_eq_error h _

theorem journaled_eq_ok {x : Action σ ε α} {s s' : Session σ} {a : α} (h : x s = .ok a s') (r : Request)
    (requests : List Request) :
    Action.journaled r x (s.withJournal requests) = .ok a (s'.withJournal (requests ++ [r])) := by
  have hplain : x (s.withJournal requests).plain = .ok a s' := h
  rw [Action.journaled, hplain]
  rfl

theorem journaled_eq_error {x : Action σ ε α} {s s' : Session σ} {e : ε} (h : x s = .error e s') (r : Request)
    (requests : List Request) :
    Action.journaled r x (s.withJournal requests) = .error e (s'.withJournal (requests ++ [r])) := by
  have hplain : x (s.withJournal requests).plain = .error e s' := h
  rw [Action.journaled, hplain]
  rfl

/-! ## The journal changes nothing else -/

/-- A result without the journal. -/
def plainResult : EStateM.Result ε (Session (Journaled σ)) α → EStateM.Result ε (Session σ) α
  | .ok a s => .ok a s.plain
  | .error e s => .error e s.plain

/-- The first step does what the second one does, apart from the journal. -/
def Transparent (x : Action (Journaled σ) ε α) (y : Action σ ε α) : Prop :=
  ∀ s, plainResult (x s) = y s.plain

theorem transparent_pure (a : α) : Transparent (pure a : Action (Journaled σ) ε α) (pure a) := fun _ => rfl

theorem transparent_note (e : Event) : Transparent (Action.note e : Action (Journaled σ) ε Unit) (Action.note e) :=
  fun _ => rfl

theorem transparent_ofExcept (r : Except ε α) :
    Transparent (Action.ofExcept r : Action (Journaled σ) ε α) (Action.ofExcept r) := by
  intro s
  cases r <;> rfl

theorem transparent_journaled (r : Request) (x : Action σ ε α) : Transparent (Action.journaled r x) x := by
  intro s
  rw [Action.journaled]
  cases x s.plain <;> rfl

theorem Transparent.bind {x : Action (Journaled σ) ε α} {y : Action σ ε α} {f : α → Action (Journaled σ) ε β}
    {g : α → Action σ ε β} (h : Transparent x y) (hf : ∀ a, Transparent (f a) (g a)) :
    Transparent (x >>= f) (y >>= g) := by
  intro s
  have hs := h s
  -- Either both steps go on, with the same value, or both end here.
  cases hx : x s with
  | ok a s' =>
    rw [hx] at hs
    rw [bind_eq_of_ok hx, bind_eq_of_ok hs.symm]
    exact hf a s'
  | error e s' =>
    rw [hx] at hs
    rw [bind_eq_of_error hx, bind_eq_of_error hs.symm]
    rfl

theorem Transparent.mapFailure {x : Action (Journaled σ) ε α} {y : Action σ ε α} (h : Transparent x y) (f : ε → ε') :
    Transparent (x.mapFailure f) (y.mapFailure f) := by
  intro s
  have hs := h s
  cases hx : x s with
  | ok a s' =>
    rw [hx] at hs
    rw [mapFailure_eq_ok hx, mapFailure_eq_ok hs.symm]
    rfl
  | error e s' =>
    rw [hx] at hs
    rw [mapFailure_eq_error hx, mapFailure_eq_error hs.symm]
    rfl

theorem Transparent.lift {x : Action (Journaled σ) ε α} {y : Action σ ε α} (h : Transparent x y) :
    Transparent (Directory.lift x) (Directory.lift y) :=
  h.mapFailure _

theorem Transparent.ite {c : Prop} [Decidable c] {x x' : Action (Journaled σ) ε α} {y y' : Action σ ε α}
    (h : Transparent x y) (h' : Transparent x' y') : Transparent (if c then x else x') (if c then y else y') := by
  split
  · exact h
  · exact h'

/-- What a conversation gives and asks is read off the journal. -/
theorem requests_of_ok {dir : Directory σ ε} (conversation : Directory (Journaled σ) ε → Action (Journaled σ) ε' α)
    {y : Action σ ε' α} (h : Transparent (conversation dir.journaled) y) {s s' : Session σ} {a : α}
    {requests : List Request} (hrun : conversation dir.journaled (s.withJournal []) = .ok a (s'.withJournal requests)) :
    y s = .ok a s' ∧ dir.requestsOf conversation s = requests := by
  have hs := h (s.withJournal [])
  rw [hrun] at hs
  refine ⟨hs.symm, ?_⟩
  rw [Directory.requestsOf, hrun]
  rfl

theorem requests_of_error {dir : Directory σ ε}
    (conversation : Directory (Journaled σ) ε → Action (Journaled σ) ε' α) {y : Action σ ε' α}
    (h : Transparent (conversation dir.journaled) y) {s s' : Session σ} {e : ε'} {requests : List Request}
    (hrun : conversation dir.journaled (s.withJournal []) = .error e (s'.withJournal requests)) :
    y s = .error e s' ∧ dir.requestsOf conversation s = requests := by
  have hs := h (s.withJournal [])
  rw [hrun] at hs
  refine ⟨hs.symm, ?_⟩
  rw [Directory.requestsOf, hrun]
  rfl

namespace Directory

variable (dir : Directory σ ε)

theorem transparent_loadMemberships (employeeId : String) :
    Transparent (dir.journaled.loadMemberships employeeId) (dir.loadMemberships employeeId) :=
  (transparent_journaled _ _).lift.bind fun _ => transparent_pure _

theorem transparent_saveMemberships (employeeId : String) (ms : List Membership) :
    Transparent (dir.journaled.saveMemberships employeeId ms) (dir.saveMemberships employeeId ms) :=
  (transparent_journaled _ _).lift.bind fun _ =>
    (transparent_note _).bind fun _ => dir.transparent_loadMemberships employeeId

theorem transparent_editMemberships (employeeId : String) (edits : List MembershipEdit) :
    Transparent (dir.journaled.editMemberships employeeId edits) (dir.editMemberships employeeId edits) :=
  (dir.transparent_loadMemberships employeeId).bind fun _ =>
    ((transparent_note _).bind fun _ => transparent_pure _).ite (dir.transparent_saveMemberships employeeId _)

theorem transparent_loadMatrix (roleId : String) :
    Transparent (dir.journaled.loadMatrix roleId) (dir.loadMatrix roleId) :=
  (transparent_journaled _ _).lift.bind fun _ => transparent_ofExcept _

theorem transparent_saveMatrix (roleId : String) (m : PermissionMatrix) (s : Selection) :
    Transparent (dir.journaled.saveMatrix roleId m s) (dir.saveMatrix roleId m s) :=
  ((transparent_note _).bind fun _ => transparent_pure _).ite
    ((transparent_journaled _ _).lift.bind fun _ =>
      (transparent_note _).bind fun _ => (dir.transparent_loadMatrix roleId).bind fun _ => transparent_pure _)

end Directory

end OrgConsole
