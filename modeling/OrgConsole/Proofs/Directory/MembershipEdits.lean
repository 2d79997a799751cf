import OrgConsole.Proofs.Directory.Journal
import OrgConsole.Proofs.Directory.Keeping
import OrgConsole.Proofs.Membership.Entries
/-!
# Editing memberships at a directory

An edit reads a list, changes it, and sends it back if there is anything to send; what it returns is
read once more. On the way the list is reconciled up to three times. It comes to the same as reconciling
the stored list once and applying the edits, because every list that is sent or compared is reconciled
already.
-/

namespace OrgConsole

theorem reconciled_applyEdits_reconcile (stored : List Membership) (edits : List MembershipEdit) :
    Reconciled (applyEdits (reconcile stored) edits) := by
  by_cases h : edits = []
  · subst h
    exact reconciled_reconcile stored
  · exact reconciled_applyEdits h

namespace Directory

variable {σ ε : Type} {dir : Directory σ ε} {employeeId : String} {s s' : Session σ} {ms stored : List Membership}

/-! ## Conversations about memberships -/

theorem loadMemberships_eq_ok (h : dir.employeeDepartments employeeId s = .ok ms s') :
    dir.loadMemberships employeeId s = .ok (reconcile ms) s' := by
  rw [loadMemberships, bind_eq_of_ok (lift_eq_ok h)]
  rfl

theorem loadMemberships_eq_error {e : ε} (h : dir.employeeDepartments employeeId s = .error e s') :
    dir.loadMemberships employeeId s = .error (.directory e) s' := by
  rw [loadMemberships, bind_eq_of_error (lift_eq_error h)]

/-- What is noted of saved memberships. -/
def savedEvent (employeeId : String) (ms : List Membership) : Event :=
  .membershipsSaved employeeId ms.length ((primary? ms).map (·.departmentId))

theorem saveMemberships_eq_ok {s'' : Session σ} (hms : Reconciled ms)
    (hsave : dir.saveEmployeeDepartments employeeId ms s = .ok () s')
    (hload : dir.employeeDepartments employeeId (s'.noted (savedEvent employeeId ms)) = .ok stored s'') :
    dir.saveMemberships employeeId ms s = .ok (reconcile stored) s'' := by
  rw [saveMemberships, reconcile_eq_self hms, bind_eq_of_ok (lift_eq_ok hsave)]
  exact loadMemberships_eq_ok hload

variable {edits : List MembershipEdit}

theorem editMemberships_unchanged (hload : dir.employeeDepartments employeeId s = .ok ms s')
    (hsame : applyEdits (reconcile ms) edits = reconcile ms) :
    dir.editMemberships employeeId edits s = .ok (reconcile ms) (s'.noted (.membershipsUnchanged employeeId)) := by
  rw [editMemberships, bind_eq_of_ok (loadMemberships_eq_ok hload)]
  simp only [if_pos hsame]
  rfl

theorem editMemberships_changed (hload : dir.employeeDepartments employeeId s = .ok ms s')
    (hchanged : applyEdits (reconcile ms) edits ≠ reconcile ms) :
    dir.editMemberships employeeId edits s =
      dir.saveMemberships employeeId (applyEdits (reconcile ms) edits) s' := by
  rw [editMemberships, bind_eq_of_ok (loadMemberships_eq_ok hload)]
  simp only [if_neg hchanged]

theorem editMemberships_eq_error {e : ε} (h : dir.employeeDepartments employeeId s = .error e s') :
    dir.editMemberships employeeId edits s = .error (.directory e) s' := by
  rw [editMemberships, bind_eq_of_error (loadMemberships_eq_error h)]

/-! ## Editing where what is sent is kept -/

/-- What an edit asks of a directory. -/
def editRequests (employeeId : String) (current edited : List Membership) : List Request :=
  if edited = current then [.employeeDepartments employeeId]
  else [.employeeDepartments employeeId, .saveEmployeeDepartments employeeId edited, .employeeDepartments employeeId]

/-- The list that an edit leaves where `stored` was. -/
def leftAfter (stored current edited : List Membership) : List Membership :=
  if edited = current then stored else edited

variable {β : Type} {works : σ → Prop} {list : σ → Option (List Membership)}
  {shown : List Membership → List Membership} {elsewhere : σ → β}

/-- Whatever the directory makes of the lists that it hands out: the edited list is sent if it differs
from the one that was read, and what is returned is what the directory then shows. -/
theorem editMemberships_of_keeps
    (hkeeps : Keeps (dir.employeeDepartments employeeId) (dir.saveEmployeeDepartments employeeId) works list shown
      elsewhere)
    (hworks : works s.backend) (hstored : list s.backend = some stored) (edits : List MembershipEdit) :
    let current := reconcile (shown stored)
    let edited := applyEdits current edits
    ∃ s' : Session σ, dir.journaled.editMemberships employeeId edits (s.withJournal []) =
        .ok (reconcile (shown (leftAfter stored current edited)))
          (s'.withJournal (editRequests employeeId current edited)) ∧
      works s'.backend ∧ list s'.backend = some (leftAfter stored current edited) ∧
      elsewhere s'.backend = elsewhere s.backend := by
  intro current edited
  obtain ⟨s₁, hload, hworks₁, hlist₁, helsewhere₁⟩ := hkeeps.read_ok s stored hworks hstored
  have hread : dir.journaled.employeeDepartments employeeId (s.withJournal []) =
      .ok (shown stored) (s₁.withJournal [.employeeDepartments employeeId]) := journaled_eq_ok hload _ []
  by_cases hsame : edited = current
  · rw [leftAfter, if_pos hsame, editRequests, if_pos hsame]
    refine ⟨s₁.noted (.membershipsUnchanged employeeId), ?_, hworks₁, hlist₁, helsewhere₁⟩
    rw [editMemberships_unchanged hread hsame]
    rfl
  · rw [leftAfter, if_neg hsame, editRequests, if_neg hsame]
    obtain ⟨s₂, hsave, hworks₂, hlist₂, helsewhere₂⟩ := hkeeps.write_ok s₁ edited hworks₁
    -- the event stands between the two sessions, and the directory is not told of it
    obtain ⟨s₃, hreload, hworks₃, hlist₃, helsewhere₃⟩ :=
      hkeeps.read_ok (s₂.noted (savedEvent employeeId edited)) edited hworks₂ hlist₂
    refine ⟨s₃, ?_, hworks₃, hlist₃, helsewhere₃.trans (helsewhere₂.trans helsewhere₁)⟩
    rw [editMemberships_changed hread hsame]
    exact saveMemberships_eq_ok (reconciled_applyEdits_reconcile _ edits)
      (journaled_eq_ok hsave (.saveEmployeeDepartments employeeId edited) [.employeeDepartments employeeId])
      (journaled_eq_ok hreload (.employeeDepartments employeeId)
        [.employeeDepartments employeeId, .saveEmployeeDepartments employeeId edited])

/-- Read without loss, what an edit leaves is the edited list. -/
theorem reconcile_leftAfter (stored : List Membership) (edits : List MembershipEdit) :
    let edited := applyEdits (reconcile stored) edits
    reconcile (leftAfter stored (reconcile stored) edited) = edited := by
  intro edited
  unfold leftAfter
  split
  · rename_i hsame
    exact hsame.symm
  · exact reconcile_eq_self (reconciled_applyEdits_reconcile stored edits)

/-- What an edit returns, asks for and leaves. -/
theorem editMemberships_leaves
    (hkeeps : Keeps (dir.employeeDepartments employeeId) (dir.saveEmployeeDepartments employeeId) works list shown
      elsewhere)
    (hworks : works s.backend) (hstored : list s.backend = some stored) (edits : List MembershipEdit) :
    let current := reconcile (shown stored)
    let edited := applyEdits current edits
    ∃ done, dir.editMemberships employeeId edits s = .ok (reconcile (shown (leftAfter stored current edited))) done ∧
      dir.requestsOf (·.editMemberships employeeId edits) s = editRequests employeeId current edited ∧
      works done.backend ∧ list done.backend = some (leftAfter stored current edited) ∧
      elsewhere done.backend = elsewhere s.backend := by
  intro current edited
  obtain ⟨done, hrun, hkept⟩ := editMemberships_of_keeps hkeeps hworks hstored edits
  obtain ⟨hplain, hrequests⟩ :=
    requests_of_ok (·.editMemberships employeeId edits) (dir.transparent_editMemberships employeeId edits) hrun
  exact ⟨done, hplain, hrequests, hkept⟩

/-- Where lists are handed out as they are, what is returned is the edited list. -/
theorem editMemberships_leaves_edited
    (hkeeps : Keeps (dir.employeeDepartments employeeId) (dir.saveEmployeeDepartments employeeId) works list id
      elsewhere)
    (hworks : works s.backend) (hstored : list s.backend = some stored) (edits : List MembershipEdit) :
    let current := reconcile stored
    let edited := applyEdits current edits
    ∃ done, dir.editMemberships employeeId edits s = .ok edited done ∧
      dir.requestsOf (·.editMemberships employeeId edits) s = editRequests employeeId current edited ∧
      works done.backend ∧ list done.backend = some (leftAfter stored current edited) ∧
      elsewhere done.backend = elsewhere s.backend := by
  intro current edited
  obtain ⟨done, hrun, hleaves⟩ := editMemberships_leaves hkeeps hworks hstored edits
  have hreturned : reconcile (id (leftAfter stored current edited)) = edited := reconcile_leftAfter stored edits
  exact ⟨done, hreturned ▸ hrun, hleaves⟩

/-- Read without its flags, what an edit leaves has the entries of the edited list. -/
theorem sameEntries_leftAfter {shown : List Membership → List Membership} (hshown : ∀ ms, SameEntries ms (shown ms))
    (stored : List Membership) (edits : List MembershipEdit) :
    let current := reconcile (shown stored)
    SameEntries (applyEdits (reconcile stored) edits)
      (reconcile (shown (leftAfter stored current (applyEdits current edits)))) := by
  intro current
  have hcurrent : SameEntries (reconcile stored) current :=
    ((sameEntries_reconcile stored).symm.trans (hshown stored)).trans (sameEntries_reconcile _)
  have hedited := hcurrent.applyEdits edits
  unfold leftAfter
  split
  · rename_i hsame
    rwa [hsame] at hedited
  · exact (hedited.trans (hshown _)).trans (sameEntries_reconcile _)

/-! ## What an edit leaves behind -/

/-- At a directory that keeps what it is sent for an employee the edited list is returned and from then on
read, it is sent once if it differs from the reconciled list that was there, and nobody else's list changes,
as far as the directory keeps them apart. At one that forgets who is primary the entries still come back,
exactly one of them primary. And a list that cannot be read is not written. -/
theorem edits_persist (dir : Directory σ ε) (employeeId : String) (edits : List MembershipEdit) (start : Session σ) :
    (∀ (works : σ → Prop) (lists : σ → String → Option (List Membership)),
      Keeps (dir.employeeDepartments employeeId) (dir.saveEmployeeDepartments employeeId) works (lists · employeeId)
        id (fun b (other : {other // other ≠ employeeId}) => lists b other.1) → works start.backend →
      ∀ stored, lists start.backend employeeId = some stored →
        let current := reconcile stored
        let edited := applyEdits current edits
        ∃ done, dir.editMemberships employeeId edits start = .ok edited done ∧
          dir.requestsOf (·.editMemberships employeeId edits) start =
            (if edited = current then [.employeeDepartments employeeId]
            else [.employeeDepartments employeeId, .saveEmployeeDepartments employeeId edited,
              .employeeDepartments employeeId]) ∧
          (∃ later, dir.loadMemberships employeeId done = .ok edited later) ∧
          ∀ other, other ≠ employeeId → lists done.backend other = lists start.backend other) ∧
    (∀ (β : Type) (works : σ → Prop) (list : σ → Option (List Membership)) (elsewhere : σ → β),
      Keeps (dir.employeeDepartments employeeId) (dir.saveEmployeeDepartments employeeId) works list
        (·.map (·.flagged false)) elsewhere →
      works start.backend → ∀ stored, list start.backend = some stored →
        ∃ returned done, dir.editMemberships employeeId edits start = .ok returned done ∧
          (returned ≠ [] → returned.countP (·.isPrimary) = 1) ∧
          returned.map (·.entry) = (applyEdits (reconcile stored) edits).map (·.entry)) ∧
    (∀ e failed, dir.employeeDepartments employeeId start = .error e failed →
      dir.editMemberships employeeId edits start = .error (.directory e) failed ∧
        dir.requestsOf (·.editMemberships employeeId edits) start = [.employeeDepartments employeeId]) := by
  refine ⟨?storing, ?forgetful, ?failing⟩
  case storing =>
    intro works lists hkeeps hworks stored hstored current edited
    obtain ⟨done, hrun, hrequests, hworks', hlist, hothers⟩ :=
      editMemberships_leaves_edited hkeeps hworks hstored edits
    have hleft : reconcile (leftAfter stored current edited) = edited := reconcile_leftAfter stored edits
    obtain ⟨later, hreload, -⟩ := hkeeps.read_ok done (leftAfter stored current edited) hworks' hlist
    exact ⟨done, hrun, hrequests, ⟨later, hleft ▸ loadMemberships_eq_ok hreload⟩,
      fun other hother => congrFun hothers ⟨other, hother⟩⟩
  case forgetful =>
    intro β works list elsewhere hkeeps hworks stored hstored
    obtain ⟨done, hrun, -⟩ := editMemberships_leaves hkeeps hworks hstored edits
    exact ⟨_, done, hrun, (reconciled_reconcile _).resolve_left,
      sameEntries_leftAfter (sameEntries_flagged _) stored edits⟩
  case failing =>
    intro e failed hfails
    have hread := journaled_eq_error hfails (.employeeDepartments employeeId) []
    exact requests_of_error (·.editMemberships employeeId edits) (dir.transparent_editMemberships employeeId edits)
      (editMemberships_eq_error hread)

/-- One list is kept, one comes back without flags, and one is not there. -/
theorem edits_persist_in_memory :
    let stored := [(Membership.of "1").flagged true, .of "2", (Membership.of "1").flagged true]
    let edits := [.remove "1", .setJobTitle "2" (some "Clerk")]
    let edited := [{ (Membership.of "2").flagged true with jobTitle := some "Clerk" }]
    let start (forgets : Bool) : Session Memory :=
      ⟨⟨.ok [], [("ada", stored), ("bob", [.of "3"])], [], forgets, .keep, []⟩, []⟩
    (∃ done, Memory.directory.editMemberships "ada" edits (start false) = .ok edited done ∧
      Memory.directory.requestsOf (·.editMemberships "ada" edits) (start false) =
        [.employeeDepartments "ada", .saveEmployeeDepartments "ada" edited, .employeeDepartments "ada"] ∧
      (∃ later, Memory.directory.loadMemberships "ada" done = .ok edited later) ∧
      done.backend.employees.lookup "bob" = some [.of "3"]) ∧
    (∃ returned done, Memory.directory.editMemberships "ada" edits (start true) = .ok returned done ∧
      (returned ≠ [] → returned.countP (·.isPrimary) = 1) ∧ returned.map (·.entry) = edited.map (·.entry)) ∧
    Memory.directory.editMemberships "eve" edits (start false) =
      .error (.directory (.noEmployee "eve")) (start false) ∧
    Memory.directory.requestsOf (·.editMemberships "eve" edits) (start false) = [.employeeDepartments "eve"] := by
  intro stored edits edited start
  have hkeep : (start false).backend.employees.lookup "ada" = some stored := rfl
  have hforget : (start true).backend.employees.lookup "ada" = some stored := rfl
  have hedited : applyEdits (reconcile stored) edits = edited := by decide
  have hchanged : edited ≠ reconcile stored := by decide
  refine ⟨?_, ?_, ?_⟩
  · obtain ⟨done, hrun, hrequests, hlater, hothers⟩ :=
      (edits_persist Memory.directory "ada" edits (start false)).1 _ (fun m other => m.employees.lookup other)
        (Memory.keeps_memberships false "ada") ⟨rfl, rfl⟩ stored hkeep
    rw [hedited] at hrun hrequests hlater
    rw [if_neg hchanged] at hrequests
    exact ⟨done, hrun, hrequests, hlater, (hothers "bob" (by decide)).trans rfl⟩
  · have hreturned := (edits_persist Memory.directory "ada" edits (start true)).2.1 _ _ _ _
      (Memory.keeps_memberships true "ada") ⟨rfl, rfl⟩ stored hforget
    rwa [hedited] at hreturned
  · exact (edits_persist Memory.directory "eve" edits (start false)).2.2 (.noEmployee "eve") (start false) rfl

end Directory

end OrgConsole
