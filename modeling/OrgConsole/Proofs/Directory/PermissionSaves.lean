import OrgConsole.Proofs.Directory.Journal
import OrgConsole.Proofs.Directory.Keeping
import OrgConsole.Proofs.Permission.Seed
/-!
# Saving permissions at a directory

A save is judged by what the selection changes in a role, it is sent as a template, and what is read back
is a selection once more. All three speak of the same actions, because a template with a selection written
into it stands for that selection, and is a template of distinct ids if the one before was.
-/

namespace OrgConsole.Directory

variable {σ ε : Type} {dir : Directory σ ε} {roleId : String} {s s' : Session σ} {m : PermissionMatrix}
  {groups : List PermissionGroup} {selection : Selection}

/-! ## Conversations about permissions -/

theorem loadMatrix_eq_ok (hload : dir.rolePermissions roleId s = .ok groups s') (hids : (permissionIds groups).Nodup) :
    dir.loadMatrix roleId s = .ok ⟨groups, seedSelection groups⟩ s' := by
  rw [loadMatrix, bind_eq_of_ok (lift_eq_ok hload), ofGroups_eq_ok_iff.2 ⟨hids, rfl⟩]
  rfl

theorem saveMatrix_unchanged (dir : Directory σ ε) (roleId : String) (s : Session σ)
    (hsame : (m.change selection).isEmpty = true) :
    dir.saveMatrix roleId m selection s = .ok (m.change selection, m) (s.noted (.permissionsUnchanged roleId)) := by
  simp only [saveMatrix, if_pos hsame]
  rfl

/-- What is noted of saved permissions. -/
def grantEvent (roleId : String) (change : PermissionChange) : Event :=
  .permissionsSaved roleId change.granted.length change.revoked.length

theorem saveMatrix_eq_ok {s'' : Session σ} (hchanged : (m.change selection).isEmpty = false)
    (hsave : dir.saveRolePermissions roleId (rebuild m.groups selection) s = .ok () s')
    (hload : dir.rolePermissions roleId (s'.noted (grantEvent roleId (m.change selection))) = .ok groups s'')
    (hids : (permissionIds groups).Nodup) :
    dir.saveMatrix roleId m selection s = .ok (m.change selection, ⟨groups, seedSelection groups⟩) s'' := by
  simp only [saveMatrix, hchanged, Bool.false_eq_true, if_false]
  rw [bind_eq_of_ok (lift_eq_ok hsave)]
  exact bind_eq_of_ok (loadMatrix_eq_ok hload hids) _

theorem saveMatrix_eq_error {e : ε} (hchanged : (m.change selection).isEmpty = false)
    (hsave : dir.saveRolePermissions roleId (rebuild m.groups selection) s = .error e s') :
    dir.saveMatrix roleId m selection s = .error (.directory e) s' := by
  simp only [saveMatrix, hchanged, Bool.false_eq_true, if_false]
  exact bind_eq_of_error (lift_eq_error hsave) _

/-- A save that changes nothing asks nothing. -/
theorem saveMatrix_asks_nothing (dir : Directory σ ε) (roleId : String) (s : Session σ)
    (hsame : (m.change selection).isEmpty = true) :
    ∃ done, dir.saveMatrix roleId m selection s = .ok (m.change selection, m) done ∧ done.backend = s.backend ∧
      dir.requestsOf (·.saveMatrix roleId m selection) s = [] := by
  have hrun : dir.journaled.saveMatrix roleId m selection (s.withJournal []) =
      .ok (m.change selection, m) ((s.noted (.permissionsUnchanged roleId)).withJournal []) :=
    saveMatrix_unchanged dir.journaled roleId (s.withJournal []) hsame
  exact ⟨s.noted (.permissionsUnchanged roleId), saveMatrix_unchanged dir roleId s hsame, rfl,
    (requests_of_ok (·.saveMatrix roleId m selection) (dir.transparent_saveMatrix roleId m selection) hrun).2⟩

/-! ## Saving where what is sent is kept -/

variable {β : Type} {works : σ → Prop} {template : σ → Option (List PermissionGroup)} {elsewhere : σ → β}

theorem saveMatrix_of_keeps
    (hkeeps : Keeps (dir.rolePermissions roleId) (dir.saveRolePermissions roleId) works template id elsewhere)
    (hworks : works s.backend) (hids : (permissionIds m.groups).Nodup) (hchanged : (m.change selection).isEmpty = false)
    (before : List Request) :
    let sent := rebuild m.groups selection
    ∃ s' : Session σ, dir.journaled.saveMatrix roleId m selection (s.withJournal before) =
        .ok (m.change selection, ⟨sent, seedSelection sent⟩)
          (s'.withJournal (before ++ [.saveRolePermissions roleId sent] ++ [.rolePermissions roleId])) ∧
      works s'.backend ∧ template s'.backend = some sent ∧ elsewhere s'.backend = elsewhere s.backend := by
  intro sent
  obtain ⟨s₁, hsave, hworks₁, htemplate₁, helsewhere₁⟩ := hkeeps.write_ok s sent hworks
  obtain ⟨s₂, hload, hworks₂, htemplate₂, helsewhere₂⟩ :=
    hkeeps.read_ok (s₁.noted (grantEvent roleId (m.change selection))) sent hworks₁ htemplate₁
  refine ⟨s₂, ?_, hworks₂, htemplate₂, helsewhere₂.trans helsewhere₁⟩
  exact saveMatrix_eq_ok hchanged (journaled_eq_ok hsave (.saveRolePermissions roleId sent) before)
    (journaled_eq_ok hload (.rolePermissions roleId) (before ++ [Request.saveRolePermissions roleId sent]))
    (permissionIds_rebuild m.groups selection ▸ hids)

/-- At a directory that keeps what it is sent for a role, the role has the selection after a save, for every
action of its template, and nothing else in it changes; a save of the same selection then has nothing to send.
A save that changes nothing is not sent at all, and one that is refused is not followed up. -/
theorem saves_persist (dir : Directory σ ε) (roleId : String) (groups : List PermissionGroup) (m : PermissionMatrix)
    (hm : (PermissionMatrix.ofGroups groups : Except (Failure ε) PermissionMatrix) = .ok m) (selection : Selection)
    (start : Session σ) :
    let change := m.change selection
    let sent := rebuild m.groups selection
    (change.isEmpty = true →
      ∃ done, dir.saveMatrix roleId m selection start = .ok (change, m) done ∧ done.backend = start.backend ∧
        dir.requestsOf (·.saveMatrix roleId m selection) start = []) ∧
    (change.isEmpty = false →
      ∀ (β : Type) (works : σ → Prop) (template : σ → Option (List PermissionGroup)) (elsewhere : σ → β),
        Keeps (dir.rolePermissions roleId) (dir.saveRolePermissions roleId) works template id elsewhere →
        works start.backend →
        ∃ refreshed done, dir.saveMatrix roleId m selection start = .ok (change, refreshed) done ∧
          dir.requestsOf (·.saveMatrix roleId m selection) start =
            [.saveRolePermissions roleId sent, .rolePermissions roleId] ∧
          works done.backend ∧ template done.backend = some sent ∧
          elsewhere done.backend = elsewhere start.backend ∧
          refreshed.groups = sent ∧ unmarked sent = unmarked m.groups ∧
          (∀ id ∈ permissionIds m.groups, refreshed.selection.isChecked id = selection.isChecked id) ∧
          (∀ id, id ∈ grantedIds sent ↔
            (id ∈ grantedIds m.groups ∨ id ∈ change.granted) ∧ id ∉ change.revoked) ∧
          ∃ again, dir.saveMatrix roleId refreshed selection done = .ok (⟨[], []⟩, refreshed) again ∧
            again.backend = done.backend ∧ dir.requestsOf (·.saveMatrix roleId refreshed selection) done = []) ∧
    (change.isEmpty = false → ∀ e failed, dir.saveRolePermissions roleId sent start = .error e failed →
      dir.saveMatrix roleId m selection start = .error (.directory e) failed ∧
        dir.requestsOf (·.saveMatrix roleId m selection) start = [.saveRolePermissions roleId sent]) := by
  intro change sent
  obtain ⟨hnodup, rfl⟩ := ofGroups_eq_ok_iff.1 hm
  have htransparent := dir.transparent_saveMatrix roleId ⟨groups, seedSelection groups⟩ selection
  refine ⟨?unchanged, ?kept, ?refused⟩
  case unchanged => exact saveMatrix_asks_nothing dir roleId start
  case kept =>
    intro hchanged β works template elsewhere hkeeps hworks
    let refreshed : PermissionMatrix := ⟨sent, seedSelection sent⟩
    have hchecks : SameChecks groups (seedSelection sent) selection := sameChecks_seed_rebuild groups selection
    obtain ⟨done, hrun, hworks', htemplate, helsewhere⟩ := saveMatrix_of_keeps hkeeps hworks hnodup hchanged []
    obtain ⟨hplain, hrequests⟩ :=
      requests_of_ok (·.saveMatrix roleId ⟨groups, seedSelection groups⟩ selection) htransparent hrun
    -- What was read back stands for the selection already.
    have hnothing : refreshed.change selection = ⟨[], []⟩ :=
      SameChecks.changes_nothing fun id hid => hchecks id (permissionIds_rebuild groups selection ▸ hid)
    refine ⟨refreshed, done, hplain, hrequests, hworks', htemplate, helsewhere, rfl,
      unmarked_rebuild groups selection, fun id hid => (hchecks id hid).symm,
      fun id => mem_grantedIds_rebuild_iff_change hnodup selection, ?_⟩
    rw [← hnothing]
    exact saveMatrix_asks_nothing dir roleId done (by rw [hnothing]; rfl)
  case refused =>
    intro hchanged e failed hrefuses
    exact requests_of_error (·.saveMatrix roleId ⟨groups, seedSelection groups⟩ selection) htransparent
      (saveMatrix_eq_error hchanged (journaled_eq_error hrefuses (.saveRolePermissions roleId sent) []))

/-- A grant and a revocation beside a mark that stands for neither and an id that no action has. -/
theorem saves_persist_in_memory :
    let action (name : String) (mark : UInt8) : PermissionAction := ⟨name, name, "", mark, 0⟩
    let template (read write : UInt8) : List PermissionGroup :=
      [⟨"org", "Organization", [⟨"dept", "Departments", [action "read" read, action "write" write]⟩]⟩]
    let m : PermissionMatrix := ⟨template 1 7, seedSelection (template 1 7)⟩
    let stray := m.selection.set "org_dept" true
    let turned := (stray.toggle "org_dept_read").toggle "org_dept_write"
    let start (mode : SaveMode) : Session Memory := ⟨⟨.ok [], [], [("admin", template 1 7)], false, mode, []⟩, []⟩
    (PermissionMatrix.ofGroups (template 1 7) : Except (Failure MemoryFailure) PermissionMatrix) = .ok m ∧
    (∃ done, Memory.directory.saveMatrix "admin" m stray (start .keep) = .ok (⟨[], []⟩, m) done ∧
      Memory.directory.requestsOf (·.saveMatrix "admin" m stray) (start .keep) = []) ∧
    (∃ refreshed done, Memory.directory.saveMatrix "admin" m turned (start .keep) =
        .ok (⟨["org_dept_write"], ["org_dept_read"]⟩, refreshed) done ∧
      Memory.directory.requestsOf (·.saveMatrix "admin" m turned) (start .keep) =
        [.saveRolePermissions "admin" (template 0 1), .rolePermissions "admin"] ∧
      refreshed.selection.isChecked "org_dept_write" = true ∧ refreshed.selection.isChecked "org_dept_read" = false ∧
      Memory.directory.requestsOf (·.saveMatrix "admin" refreshed turned) done = []) ∧
    Memory.directory.saveMatrix "admin" m turned (start .refuse) = .error (.directory .readOnly) (start .refuse) ∧
    Memory.directory.requestsOf (·.saveMatrix "admin" m turned) (start .refuse) =
      [.saveRolePermissions "admin" (template 0 1)] := by
  intro action template m stray turned start
  have hm : (PermissionMatrix.ofGroups (template 1 7) : Except (Failure MemoryFailure) PermissionMatrix) = .ok m :=
    ofGroups_eq_ok_iff.2 ⟨by decide, rfl⟩
  have hstray : m.change stray = ⟨[], []⟩ := by decide +kernel
  have hturned : m.change turned = ⟨["org_dept_write"], ["org_dept_read"]⟩ := by decide +kernel
  have hsent : rebuild m.groups turned = template 0 1 := by decide +kernel
  have hwrite : "org_dept_write" ∈ permissionIds m.groups ∧ turned.isChecked "org_dept_write" = true := by
    decide +kernel
  have hread : "org_dept_read" ∈ permissionIds m.groups ∧ turned.isChecked "org_dept_read" = false := by
    decide +kernel
  refine ⟨hm, ?_, ?_, ?_⟩
  · obtain ⟨done, hrun, -, hrequests⟩ :=
      (saves_persist Memory.directory "admin" _ m hm stray (start .keep)).1 (by rw [hstray]; rfl)
    rw [hstray] at hrun
    exact ⟨done, hrun, hrequests⟩
  · obtain ⟨refreshed, done, hrun, hrequests, -, -, -, -, -, hchecks, -, _, -, -, hagain⟩ :=
      (saves_persist Memory.directory "admin" _ m hm turned (start .keep)).2.1 (by rw [hturned]; rfl) _ _ _ _
        (Memory.keeps_templates false "admin") ⟨rfl, rfl⟩
    rw [hturned] at hrun
    rw [hsent] at hrequests
    exact ⟨refreshed, done, hrun, hrequests, (hchecks _ hwrite.1).trans hwrite.2,
      (hchecks _ hread.1).trans hread.2, hagain⟩
  · have hrefused := (saves_persist Memory.directory "admin" _ m hm turned (start .refuse)).2.2 (by rw [hturned]; rfl)
      .readOnly (start .refuse) rfl
    rwa [hsent] at hrefused

end OrgConsole.Directory
