import OrgConsole.Directory.Memory
/-!
# Directories that keep what they are sent

What a directory keeps is seen through what it answers. It keeps what it is sent under an id if a list or a
template that was written there is what is read there from then on. This is asked of one id at a time: other
ids may be refused, or stand for the same thing. A directory in memory is of this kind under every id as long
as it takes saves.
-/

namespace OrgConsole

/-- Reading and writing under one id. While the backend works, a write puts something in place there, which a read
leaves alone and hands out in the form that `shown` gives it. Neither touches what is `elsewhere`. -/
structure Keeps {σ ε α β : Type} (read : Action σ ε α) (write : α → Action σ ε Unit) (works : σ → Prop)
    (contents : σ → Option α) (shown : α → α) (elsewhere : σ → β) : Prop where
  read_ok : ∀ (s : Session σ) (a : α), works s.backend → contents s.backend = some a →
    ∃ s', read s = .ok (shown a) s' ∧ works s'.backend ∧ contents s'.backend = some a ∧
      elsewhere s'.backend = elsewhere s.backend
  write_ok : ∀ (s : Session σ) (a : α), works s.backend →
    ∃ s', write a s = .ok () s' ∧ works s'.backend ∧ contents s'.backend = some a ∧
      elsewhere s'.backend = elsewhere s.backend

/-! ## The directory in memory -/

theorem lookup_cons_eq {α : Type} (key other : String) (a : α) (entries : List (String × α)) :
    ((key, a) :: entries).lookup other = if other = key then some a else entries.lookup other := by
  rw [List.lookup_cons]
  by_cases h : other = key
  · rw [if_pos h, h, BEq.rfl]
  · rw [if_neg h, beq_false_of_ne h]

theorem lookup_assign {α : Type} (key other : String) (a : α) (entries : List (String × α)) :
    (assign key a entries).lookup other = if other = key then some a else entries.lookup other := by
  induction entries with
  | nil => exact lookup_cons_eq key other a []
  | cons entry rest ih =>
    obtain ⟨k, b⟩ := entry
    unfold assign
    split
    · rename_i hk
      rw [lookup_cons_eq, lookup_cons_eq, hk]
      split <;> rfl
    · rename_i hk
      rw [lookup_cons_eq, lookup_cons_eq, ih]
      by_cases h : other = k
      · simp only [h, if_neg hk]
      · simp only [if_neg h]

theorem lookup_assign_self {α : Type} (key : String) (a : α) (entries : List (String × α)) :
    (assign key a entries).lookup key = some a := by
  rw [lookup_assign, if_pos rfl]

theorem lookup_assign_of_ne {α : Type} {key other : String} (h : other ≠ key) (a : α) (entries : List (String × α)) :
    (assign key a entries).lookup other = entries.lookup other := by
  rw [lookup_assign, if_neg h]

namespace Memory

/-- It takes saves, and whether it forgets who is primary. -/
def TakesSaves (forgets : Bool) (m : Memory) : Prop :=
  m.mode = .keep ∧ m.forgetsPrimary = forgets

theorem save_of_keep {m : Memory} (h : m.mode = .keep) (what : Save) (store : Memory → Memory) :
    m.save what store = (.ok (), store { m with saved := m.saved ++ [what] }) := by
  rw [save, h]

/-- What happens to a list on the way out. -/
def handedOut : Bool → List Membership → List Membership
  | true => (·.map (·.flagged false))
  | false => id

theorem handOut_eq (m : Memory) : m.handOut = handedOut m.forgetsPrimary := by
  funext ms
  unfold handOut
  cases m.forgetsPrimary <;> rfl

theorem keeps_memberships (forgets : Bool) (employeeId : String) :
    Keeps (directory.employeeDepartments employeeId) (directory.saveEmployeeDepartments employeeId)
      (TakesSaves forgets) (fun m => m.employees.lookup employeeId) (handedOut forgets)
      fun m (other : {other // other ≠ employeeId}) => m.employees.lookup other.1 where
  read_ok := by
    rintro s ms ⟨hmode, hforgets⟩ hms
    refine ⟨s, ?_, ⟨hmode, hforgets⟩, hms, rfl⟩
    simp only [directory, Action.ask, hms, handOut_eq, hforgets]
  write_ok := by
    rintro s ms ⟨hmode, hforgets⟩
    refine ⟨⟨{ s.backend with
      saved := s.backend.saved ++ [.memberships employeeId ms]
      employees := assign employeeId ms s.backend.employees }, s.events⟩, ?_, ⟨hmode, hforgets⟩,
      lookup_assign_self _ _ _, funext fun other => lookup_assign_of_ne other.2 _ _⟩
    simp only [directory, Action.ask, save_of_keep hmode]

theorem keeps_templates (forgets : Bool) (roleId : String) :
    Keeps (directory.rolePermissions roleId) (directory.saveRolePermissions roleId) (TakesSaves forgets)
      (fun m => m.roles.lookup roleId) id fun m (other : {other // other ≠ roleId}) => m.roles.lookup other.1 where
  read_ok := by
    rintro s groups hworks hgroups
    refine ⟨s, ?_, hworks, hgroups, rfl⟩
    simp only [directory, Action.ask, hgroups, id]
  write_ok := by
    rintro s groups ⟨hmode, hforgets⟩
    refine ⟨⟨{ s.backend with
      saved := s.backend.saved ++ [.permissions roleId groups]
      roles := assign roleId groups s.backend.roles }, s.events⟩, ?_, ⟨hmode, hforgets⟩,
      lookup_assign_self _ _ _, funext fun other => lookup_assign_of_ne other.2 _ _⟩
    simp only [directory, Action.ask, save_of_keep hmode]

end Memory

end OrgConsole
