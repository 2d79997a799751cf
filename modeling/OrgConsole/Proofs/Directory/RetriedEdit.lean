import OrgConsole.Proofs.Directory.MembershipEdits
import OrgConsole.Proofs.Http.Storing
import OrgConsole.Proofs.Membership.Repeated
/-!
# Trying an edit again

Whoever does not know whether an edit came through can make it again. Where the directory keeps what it is sent, the
list that it then has is the one that the edit left, so the second time there is nothing to send.
-/

namespace OrgConsole

namespace Directory

variable {σ ε β : Type} {dir : Directory σ ε} {employeeId : String} {works : σ → Prop}
  {list : σ → Option (List Membership)} {elsewhere : σ → β} {start : Session σ} {stored : List Membership}

/-- At a directory that keeps what it is sent, an edit that would change nothing only reads. -/
theorem editMemberships_asks_once
    (hkeeps : Keeps (dir.employeeDepartments employeeId) (dir.saveEmployeeDepartments employeeId) works list id elsewhere)
    (hworks : works start.backend) (hstored : list start.backend = some stored) {edits : List MembershipEdit}
    (hsame : applyEdits (reconcile stored) edits = reconcile stored) :
    ∃ done, dir.editMemberships employeeId edits start = .ok (reconcile stored) done ∧
      dir.requestsOf (·.editMemberships employeeId edits) start = [.employeeDepartments employeeId] ∧
      list done.backend = list start.backend ∧ elsewhere done.backend = elsewhere start.backend := by
  obtain ⟨done, hrun, hrequests, -, hlist, helsewhere⟩ := editMemberships_leaves_edited hkeeps hworks hstored edits
  rw [hsame] at hrun
  rw [editRequests, if_pos hsame] at hrequests
  rw [leftAfter, if_pos hsame, ← hstored] at hlist
  exact ⟨done, hrun, hrequests, hlist, helsewhere⟩

/-- What a single edit leaves at such a directory is what it returns, and making it again changes nothing in it. -/
theorem edit_settles
    (hkeeps : Keeps (dir.employeeDepartments employeeId) (dir.saveEmployeeDepartments employeeId) works list id elsewhere)
    (hworks : works start.backend) (hstored : list start.backend = some stored) (edit : MembershipEdit) :
    ∃ done left, dir.editMemberships employeeId [edit] start = .ok (reconcile left) done ∧ works done.backend ∧
      list done.backend = some left ∧ applyEdits (reconcile left) [edit] = reconcile left := by
  obtain ⟨done, hrun, -, hworks', hlist, -⟩ := editMemberships_leaves_edited hkeeps hworks hstored [edit]
  let left := leftAfter stored (reconcile stored) (applyEdits (reconcile stored) [edit])
  have hleft : reconcile left = applyEdits (reconcile stored) [edit] := reconcile_leftAfter stored [edit]
  rw [← hleft] at hrun
  exact ⟨done, left, hrun, hworks', hlist, (congrArg edit.apply hleft).trans ((apply_apply edit _).trans hleft.symm)⟩

/-- An edit made twice in a row leaves what it leaves the first time, whatever list it is made to. So at a directory that
keeps what it is sent for an employee a single edit can be tried again: it succeeds, and from then on the same edit only
reads the list, returns what it returned before, and leaves everything as it is. -/
theorem retried_edit_saves_nothing (dir : Directory σ ε) (employeeId : String) (edit : MembershipEdit)
    (start : Session σ) :
    (∀ ms, edit.apply (edit.apply ms) = edit.apply ms) ∧
      ∀ (β : Type) (works : σ → Prop) (list : σ → Option (List Membership)) (elsewhere : σ → β),
        Keeps (dir.employeeDepartments employeeId) (dir.saveEmployeeDepartments employeeId) works list id elsewhere →
        works start.backend → ∀ stored, list start.backend = some stored →
          (∃ returned done, dir.editMemberships employeeId [edit] start = .ok returned done) ∧
          ∀ returned done, dir.editMemberships employeeId [edit] start = .ok returned done →
            ∃ again, dir.editMemberships employeeId [edit] done = .ok returned again ∧
              dir.requestsOf (·.editMemberships employeeId [edit]) done = [.employeeDepartments employeeId] ∧
              list again.backend = list done.backend ∧ elsewhere again.backend = elsewhere done.backend := by
  refine ⟨apply_apply edit, fun β works list elsewhere hkeeps hworks stored hstored => ?_⟩
  obtain ⟨done, left, hrun, hworks', hleft, hsettled⟩ := edit_settles hkeeps hworks hstored edit
  refine ⟨⟨_, done, hrun⟩, fun returned done' hrun' => ?_⟩
  obtain ⟨rfl, rfl⟩ := EStateM.Result.ok.inj (hrun.symm.trans hrun')
  exact editMemberships_asks_once hkeeps hworks' hleft hsettled

/-- A department that is listed twice is made the primary one, in a list that is kept behind a client. Both times both its
memberships are flagged at first. -/
theorem retried_edit_saves_nothing_over_http :
    let stored := [Membership.of "1", (Membership.of "2").flagged true, (Membership.of "1").flagged true]
    let edit := MembershipEdit.setPrimary "1"
    let left := [(Membership.of "1").flagged true, .of "2", .of "1"]
    let client : Client := ⟨⟨"http", none, some (.domain "localhost"), none, [""], none, none⟩, "", ""⟩
    let dir := client.directory RouteBackend.send
    let target := "/api/employees/ada/departments"
    let start : Session RouteBackend := ⟨.keeping target (Json.array (stored.map Wire.membershipJson)).compress, []⟩
    edit.apply stored = left ∧ edit.apply (edit.apply stored) = left ∧
      ∃ done, dir.editMemberships "ada" [edit] start = .ok left done ∧
        ∃ again, dir.editMemberships "ada" [edit] done = .ok left again ∧
          dir.requestsOf (·.editMemberships "ada" [edit]) done = [.employeeDepartments "ada"] ∧
          RouteBackend.recordsAt Wire.memberships target again.backend =
            RouteBackend.recordsAt Wire.memberships target done.backend := by
  intro stored edit left client dir target start
  have htext := Wire.faithful_membership.list.readText_eq (by decide)
  have hserves : RouteBackend.Serves target start.backend := RouteBackend.serves_keeping target _
  have hstored := RouteBackend.recordsAt_keeping (htext stored) target
  have hurl : (client.endpoint ["employees", "ada", "departments"]).target = target := by decide +kernel
  have hstores := RouteBackend.stores (client.endpoint ["employees", "ada", "departments"]) client.authorization htext
  rw [hurl] at hstores
  have hkeeps := Client.keeps_memberships (by decide +kernel) hstores
  obtain ⟨htwice, hretry⟩ := retried_edit_saves_nothing dir "ada" edit start
  obtain ⟨-, hagain⟩ := hretry _ _ _ _ hkeeps hserves stored hstored
  have honce : edit.apply stored = left := by decide
  have hedited : applyEdits (reconcile stored) [edit] = left := by decide
  obtain ⟨done, hrun, -⟩ := editMemberships_leaves_edited hkeeps hserves hstored [edit]
  rw [hedited] at hrun
  obtain ⟨again, hsecond, hrequests, hlist, -⟩ := hagain left done hrun
  exact ⟨honce, (htwice stored).trans honce, done, hrun, again, hsecond, hrequests, hlist⟩

end Directory

end OrgConsole
