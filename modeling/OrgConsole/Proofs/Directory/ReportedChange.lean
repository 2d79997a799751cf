import OrgConsole.Proofs.Directory.PermissionSaves
/-!
# What a save changes and what it reports

A save reports the difference between two selections and sends a template. In the template before, any
mark but `1` stands for an action that is not granted; in the one that is sent, only `0` does. So the two
differ in what is reported, and in actions with other marks that are set to `0` though they are granted
neither before nor after.
-/

namespace OrgConsole

/-! ## Templates action by action -/

/-- The ids of the actions in which the second of two templates of one shape is not like the first. -/
def changedIds (before after : List PermissionGroup) : List String :=
  (((leaves before).zip (leaves after)).filter fun p => p.2 ≠ p.1).map (·.1.id)

/-- The ids of the actions with a mark other than `0` and `1` that a selection does not check. -/
def clearedIds (groups : List PermissionGroup) (s : Selection) : List String :=
  ((leaves groups).filter fun l => 1 < l.action.mark && !s.isChecked l.id).map (·.id)

variable {groups : List PermissionGroup}

/-- Writing a selection back changes the actions that have another mark than the selection gives them. -/
theorem changedIds_rebuild (groups : List PermissionGroup) (s : Selection) :
    changedIds groups (rebuild groups s) =
      ((leaves groups).filter fun l => l.action.mark ≠ if s.isChecked l.id then 1 else 0).map (·.id) := by
  have hmark : ∀ l : Leaf, { l with action := l.action.remark s l.id } ≠ l ↔
      l.action.mark ≠ if s.isChecked l.id then 1 else 0 := by
    rintro ⟨id, domain, domainName, resource, resourceName, ⟨action, actionName, description, mark, sortOrder⟩⟩
    rw [ne_comm]
    simp [PermissionAction.remark]
  rw [changedIds, leaves_rebuild, ← List.map_prod_left_eq_zip, List.filter_map, List.map_map]
  simp only [Function.comp_def, hmark]

/-- A mark that is not what a selection says is `0`, `1`, or another, which does not grant either. -/
theorem mark_ne_iff (mark : UInt8) (checked : Bool) :
    (mark ≠ if checked then 1 else 0) ↔
      ((mark == 1) = false ∧ checked = true) ∨ ((mark == 1) = true ∧ checked = false) ∨
        1 < mark ∧ checked = false := by
  cases checked with
  | true => simp
  | false =>
    have hcases : mark ≠ 0 ↔ mark = 1 ∨ 1 < mark := by
      simp only [ne_eq, ← UInt8.toNat_inj, UInt8.lt_iff_toNat_lt, UInt8.toNat_ofNat]
      omega
    simpa using hcases

/-- What changes between the selection of a template and another one, in terms of marks. -/
theorem changeBetween_seed (hids : (permissionIds groups).Nodup) (s : Selection) :
    changeBetween groups (seedSelection groups) s = {
      granted := ((leaves groups).filter fun l => !(l.action.mark == 1) && s.isChecked l.id).map (·.id)
      revoked := ((leaves groups).filter fun l => l.action.mark == 1 && !s.isChecked l.id).map (·.id) } := by
  unfold changeBetween permissionIds
  rw [List.filter_map, List.filter_map]
  congr 2
  all_goals
    refine List.filter_congr fun l hl => ?_
    simp only [Function.comp_apply, isChecked_seed_of_nodup hids hl]

/-- What is changed is granted, revoked or cleared. -/
theorem mem_changedIds_rebuild (hids : (permissionIds groups).Nodup) (s : Selection) {id : String} :
    let change := changeBetween groups (seedSelection groups) s
    id ∈ changedIds groups (rebuild groups s) ↔
      id ∈ change.granted ∨ id ∈ change.revoked ∨ id ∈ clearedIds groups s := by
  simp only [changedIds_rebuild, changeBetween_seed hids, clearedIds, List.mem_map, List.mem_filter, mark_ne_iff,
    decide_eq_true_eq, Bool.and_eq_true, Bool.not_eq_true', ← exists_or, ← or_and_right, ← and_or_left]

/-- What is cleared is not reported, since it counts as not granted before and after. -/
theorem not_reported_of_mem_clearedIds (hids : (permissionIds groups).Nodup) {s : Selection} {id : String}
    (h : id ∈ clearedIds groups s) :
    let change := changeBetween groups (seedSelection groups) s
    id ∉ change.granted ∧ id ∉ change.revoked := by
  obtain ⟨l, hl, rfl⟩ := List.mem_map.1 h
  obtain ⟨hl, hcleared⟩ := List.mem_filter.1 hl
  obtain ⟨hmark, hunchecked⟩ : 1 < l.action.mark ∧ s.isChecked l.id = false := by simpa using hcleared
  have hseed : (seedSelection groups).isChecked l.id = false := by
    rw [isChecked_seed_of_nodup hids hl, beq_eq_false_iff_ne]
    exact (UInt8.ne_of_lt hmark).symm
  simp [changeBetween, hunchecked, hseed]

/-! ## What is sent -/

namespace Directory

variable {σ ε : Type}

/-- The requests so far at the end of a step, whether it fails or not. -/
def requestsAfter {ε' α : Type} : EStateM.Result ε' (Session (Journaled σ)) α → List Request
  | .ok _ s | .error _ s => s.requests

theorem requestsOf_eq {ε' α : Type} (dir : Directory σ ε)
    (conversation : Directory (Journaled σ) ε → Action (Journaled σ) ε' α) (s : Session σ) :
    dir.requestsOf conversation s = requestsAfter (conversation dir.journaled (s.withJournal [])) := by
  unfold requestsOf
  cases conversation dir.journaled (s.withJournal []) <;> rfl

theorem requestsAfter_journaled {α : Type} (r : Request) (x : Action σ ε α) (s : Session (Journaled σ)) :
    requestsAfter (lift (Action.journaled r x) s) = s.requests ++ [r] := by
  unfold lift Action.mapFailure Action.journaled
  cases x s.plain <;> rfl

/-- Going on without asking adds no request. -/
theorem requestsAfter_bind {ε' α β : Type} {x : Action (Journaled σ) ε' α} {f : α → Action (Journaled σ) ε' β}
    (hf : ∀ a s, requestsAfter (f a s) = s.requests) (s : Session (Journaled σ)) :
    requestsAfter ((x >>= f) s) = requestsAfter (x s) := by
  cases hx : x s with
  | ok a s' => rw [bind_eq_of_ok hx, hf, requestsAfter]
  | error e s' => rw [bind_eq_of_error hx, requestsAfter, requestsAfter]

theorem requestsAfter_loadMatrix (dir : Directory σ ε) (roleId : String) (s : Session (Journaled σ)) :
    requestsAfter (dir.journaled.loadMatrix roleId s) = s.requests ++ [.rolePermissions roleId] := by
  refine (requestsAfter_bind (fun groups s => ?_) s).trans (requestsAfter_journaled _ _ s)
  unfold Action.ofExcept
  cases (PermissionMatrix.ofGroups groups : Except (Failure ε) PermissionMatrix) <;> rfl

/-- A save that changes something sends one template, and whatever comes of that it sends no other. -/
theorem requestsOf_saveMatrix (dir : Directory σ ε) (roleId : String) {m : PermissionMatrix} {selection : Selection}
    (hchanged : (m.change selection).isEmpty = false) (start : Session σ) :
    ∃ reads, dir.requestsOf (·.saveMatrix roleId m selection) start =
        .saveRolePermissions roleId (rebuild m.groups selection) :: reads ∧
      ∀ r ∈ reads, r = .rolePermissions roleId := by
  let sent := rebuild m.groups selection
  have hsent := requestsAfter_journaled (.saveRolePermissions roleId sent) (dir.saveRolePermissions roleId sent)
    (start.withJournal [])
  rw [requestsOf_eq]
  simp only [saveMatrix, hchanged, Bool.false_eq_true, if_false]
  cases hsave : lift (dir.journaled.saveRolePermissions roleId sent) (start.withJournal []) with
  | error e s =>
    have hs : s.requests = [.saveRolePermissions roleId sent] := (congrArg requestsAfter hsave).symm.trans hsent
    rw [bind_eq_of_error hsave]
    exact ⟨[], hs, List.forall_mem_nil _⟩
  | ok _ s =>
    have hs : s.requests = [.saveRolePermissions roleId sent] := (congrArg requestsAfter hsave).symm.trans hsent
    rw [bind_eq_of_ok hsave]
    refine ⟨[.rolePermissions roleId], ?_, by simp⟩
    -- What was saved is noted, and then the matrix is read once.
    refine (congrArg requestsAfter (bind_eq_of_ok (note_eq_ok _ s) _)).trans ?_
    refine (requestsAfter_bind (fun _ _ => rfl) _).trans ((requestsAfter_loadMatrix dir roleId _).trans ?_)
    exact congrArg (· ++ [Request.rolePermissions roleId]) hs

/-- Whatever the directory does with it, a save that changes something sends one template, which has
everything but marks of the one before. It is not like that one in the actions that are reported and in
those that are cleared, and no action is both. So the report names all that is changed exactly if nothing
is cleared. -/
theorem report_names_changed_iff (dir : Directory σ ε) (roleId : String) (groups : List PermissionGroup)
    (m : PermissionMatrix) (hm : (PermissionMatrix.ofGroups groups : Except (Failure ε) PermissionMatrix) = .ok m)
    (selection : Selection) (hchanged : (m.change selection).isEmpty = false) (start : Session σ) :
    let change := m.change selection
    let sent := rebuild groups selection
    (∃ reads, dir.requestsOf (·.saveMatrix roleId m selection) start = .saveRolePermissions roleId sent :: reads ∧
      ∀ r ∈ reads, r = .rolePermissions roleId) ∧
    unmarked sent = unmarked groups ∧
    (∀ id, id ∈ changedIds groups sent ↔
      id ∈ change.granted ∨ id ∈ change.revoked ∨ id ∈ clearedIds groups selection) ∧
    (∀ id ∈ clearedIds groups selection, id ∉ change.granted ∧ id ∉ change.revoked) ∧
    ((∀ id, id ∈ changedIds groups sent ↔ id ∈ change.granted ∨ id ∈ change.revoked) ↔
      clearedIds groups selection = []) := by
  intro change sent
  obtain ⟨hids, rfl⟩ := ofGroups_eq_ok_iff.1 hm
  have hall : ∀ id, id ∈ changedIds groups sent ↔
      id ∈ change.granted ∨ id ∈ change.revoked ∨ id ∈ clearedIds groups selection :=
    fun id => mem_changedIds_rebuild hids selection
  have hapart : ∀ id ∈ clearedIds groups selection, id ∉ change.granted ∧ id ∉ change.revoked :=
    fun id hid => not_reported_of_mem_clearedIds hids hid
  refine ⟨dir.requestsOf_saveMatrix roleId hchanged start, unmarked_rebuild groups selection, hall, hapart, ?_⟩
  constructor
  · intro hreported
    rw [List.eq_nil_iff_forall_not_mem]
    intro id hid
    obtain ⟨hgranted, hrevoked⟩ := hapart id hid
    exact ((hreported id).1 ((hall id).2 (.inr (.inr hid)))).elim hgranted hrevoked
  · intro hnone id
    rw [hall id, hnone]
    simp

/-- One action is granted whose mark was neither `0` nor `1`, and one is revoked. -/
theorem report_names_changed_of_strange_mark :
    let action (name : String) (mark : UInt8) : PermissionAction := ⟨name, name, "", mark, 0⟩
    let template (read write delete : UInt8) : List PermissionGroup := [⟨"org", "Organization",
      [⟨"dept", "Departments", [action "read" read, action "write" write, action "delete" delete]⟩]⟩]
    let m : PermissionMatrix := ⟨template 1 7 0, seedSelection (template 1 7 0)⟩
    let turned := (m.selection.toggle "org_dept_read").toggle "org_dept_write"
    let start : Session Memory := ⟨⟨.ok [], [], [("admin", template 1 7 0)], false, .ignore, []⟩, []⟩
    (PermissionMatrix.ofGroups (template 1 7 0) : Except (Failure MemoryFailure) PermissionMatrix) = .ok m ∧
      (m.change turned).isEmpty = false ∧
      (∃ reads, Memory.directory.requestsOf (·.saveMatrix "admin" m turned) start =
        .saveRolePermissions "admin" (template 0 1 0) :: reads) ∧
      (∀ id, id ∈ changedIds (template 1 7 0) (template 0 1 0) ↔ id ∈ ["org_dept_write"] ∨ id ∈ ["org_dept_read"]) := by
  intro action template m turned start
  have hm : (PermissionMatrix.ofGroups (template 1 7 0) : Except (Failure MemoryFailure) PermissionMatrix) = .ok m :=
    ofGroups_eq_ok_iff.2 ⟨by decide, rfl⟩
  have hturned : m.change turned = ⟨["org_dept_write"], ["org_dept_read"]⟩ := by decide +kernel
  have hsent : rebuild (template 1 7 0) turned = template 0 1 0 := by decide +kernel
  have hchanged : (m.change turned).isEmpty = false := by rw [hturned]; rfl
  obtain ⟨⟨reads, hrequests, -⟩, -, -, -, hcomplete⟩ :=
    report_names_changed_iff Memory.directory "admin" _ m hm turned hchanged start
  have hnone : clearedIds (template 1 7 0) turned = [] := by decide +kernel
  have hnames := hcomplete.2 hnone
  rw [hsent] at hrequests hnames
  rw [hturned] at hnames
  exact ⟨hm, hchanged, ⟨reads, hrequests⟩, hnames⟩

/-- Granting one action clears another one, and the report names only the first. -/
theorem cleared_mark_unreported :
    let action (name : String) (mark : UInt8) : PermissionAction := ⟨name, name, "", mark, 0⟩
    let template (read write : UInt8) : List PermissionGroup :=
      [⟨"org", "Organization", [⟨"dept", "Departments", [action "read" read, action "write" write]⟩]⟩]
    let m : PermissionMatrix := ⟨template 2 0, seedSelection (template 2 0)⟩
    let turned := m.selection.toggle "org_dept_write"
    let start : Session Memory := ⟨⟨.ok [], [], [("admin", template 2 0)], false, .keep, []⟩, []⟩
    (PermissionMatrix.ofGroups (template 2 0) : Except (Failure MemoryFailure) PermissionMatrix) = .ok m ∧
      (m.change turned).isEmpty = false ∧
      Memory.directory.requestsOf (·.saveMatrix "admin" m turned) start =
        [.saveRolePermissions "admin" (template 0 1), .rolePermissions "admin"] ∧
      ¬ ∀ id, id ∈ changedIds (template 2 0) (template 0 1) ↔
        id ∈ (m.change turned).granted ∨ id ∈ (m.change turned).revoked := by
  intro action template m turned start
  have hm : (PermissionMatrix.ofGroups (template 2 0) : Except (Failure MemoryFailure) PermissionMatrix) = .ok m :=
    ofGroups_eq_ok_iff.2 ⟨by decide, rfl⟩
  have hturned : m.change turned = ⟨["org_dept_write"], []⟩ := by decide +kernel
  refine ⟨hm, by rw [hturned]; rfl, by decide +kernel, fun h => ?_⟩
  have hread := (h "org_dept_read").1 (by decide +kernel)
  rw [hturned] at hread
  revert hread
  decide

end Directory

end OrgConsole
