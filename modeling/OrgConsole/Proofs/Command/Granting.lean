import OrgConsole.Command.Run
import OrgConsole.Proofs.Directory.PermissionSaves
import OrgConsole.Proofs.Http.Storing
import OrgConsole.Proofs.Permission.Change
/-!
# Granting and revoking

A command that grants or revokes sets the permissions that it names, saves the selection that this gives and
prints what changed. It goes through the selection, the change, the template and the report; in each of them it
shows as the same actions, those that it names and that were not yet as it wants them.
-/

namespace OrgConsole

variable {groups : List PermissionGroup}

/-! ## What is stored after a save -/

/-- The template of a role after a selection was saved over it, where a save that changes nothing is not sent. -/
def storedAfter (groups : List PermissionGroup) (s : Selection) : List PermissionGroup :=
  if (changeBetween groups (seedSelection groups) s).isEmpty then groups else rebuild groups s

/-- The ids of the actions that one of two templates grants and the other does not, in template order. -/
def turnedIds (groups groups' : List PermissionGroup) : List String :=
  (permissionIds groups).filter fun id => decide (id ∈ grantedIds groups) != decide (id ∈ grantedIds groups')

theorem unmarked_storedAfter (groups : List PermissionGroup) (s : Selection) :
    unmarked (storedAfter groups s) = unmarked groups := by
  unfold storedAfter
  split
  · rfl
  · exact unmarked_rebuild groups s

theorem mem_grantedIds_storedAfter (h : (permissionIds groups).Nodup) (s : Selection) {id : String} :
    id ∈ grantedIds (storedAfter groups s) ↔ id ∈ permissionIds groups ∧ s.isChecked id = true := by
  rw [← mem_grantedIds_rebuild h s]
  unfold storedAfter
  split
  · rename_i hempty
    -- What was not sent would not have changed what is granted.
    obtain ⟨hgranted, hrevoked⟩ := PermissionChange.isEmpty_iff.1 hempty
    have hrebuilt := @mem_grantedIds_rebuild_iff_change groups h s id
    simp only [hgranted, hrevoked, List.not_mem_nil, or_false, not_false_eq_true, and_true] at hrebuilt
    exact hrebuilt.symm
  · rfl

theorem turnedIds_storedAfter (h : (permissionIds groups).Nodup) (s : Selection) :
    turnedIds groups (storedAfter groups s) =
      (permissionIds groups).filter fun id => (seedSelection groups).isChecked id != s.isChecked id := by
  refine List.filter_congr fun id hid => ?_
  simp only [mem_grantedIds h, mem_grantedIds_storedAfter h s, hid, true_and, Bool.decide_eq_true]

theorem turnedIds_eq_nil_iff (h : (permissionIds groups).Nodup) (s : Selection) :
    turnedIds groups (storedAfter groups s) = [] ↔
      ∀ id, id ∈ grantedIds (storedAfter groups s) ↔ id ∈ grantedIds groups := by
  rw [turnedIds, List.filter_eq_nil_iff]
  constructor
  · intro hnone id
    by_cases hid : id ∈ permissionIds groups
    · have halike := hnone id hid
      simp only [bne_iff_ne, ne_eq, not_not, decide_eq_decide] at halike
      exact halike.symm
    · rw [mem_grantedIds_storedAfter h, mem_grantedIds h]
      simp only [hid, false_and]
  · intro hsame id _
    simp [hsame id]

/-! ## Setting permissions -/

/-- The selection of a role in which some permissions were set. -/
def setAll (groups : List PermissionGroup) (grant : Bool) (ids : List String) : Selection :=
  ids.foldl (fun s id => s.set id grant) (seedSelection groups)

/-- What is set is set, however often it is named, and nothing else. -/
theorem isChecked_setAll (groups : List PermissionGroup) (grant : Bool) (ids : List String) (id : String) :
    (setAll groups grant ids).isChecked id = if id ∈ ids then grant else (seedSelection groups).isChecked id := by
  have hpairs := @isChecked_foldl_set (ids.map fun id => (id, grant)) id grant (seedSelection groups) (by simp)
  rwa [List.foldl_map, List.map_map, Function.comp_def, List.map_id'] at hpairs

/-- A change that only grants or only revokes. -/
def PermissionChange.oneWay (grant : Bool) (ids : List String) : PermissionChange :=
  if grant then ⟨ids, []⟩ else ⟨[], ids⟩

theorem isEmpty_oneWay_iff {grant : Bool} {ids : List String} :
    (PermissionChange.oneWay grant ids).isEmpty = true ↔ ids = [] := by
  cases grant <;> simp [PermissionChange.oneWay, PermissionChange.isEmpty]

theorem change_setAll (h : (permissionIds groups).Nodup) (grant : Bool) (ids : List String) :
    changeBetween groups (seedSelection groups) (setAll groups grant ids) =
      .oneWay grant (turnedIds groups (storedAfter groups (setAll groups grant ids))) := by
  rw [turnedIds_storedAfter h]
  cases grant with
  | true =>
    simp only [changeBetween, PermissionChange.oneWay, isChecked_setAll, if_true]
    congr 1
    · refine List.filter_congr fun id _ => ?_
      cases (seedSelection groups).isChecked id <;> simp
    · refine List.filter_eq_nil_iff.2 fun id _ => ?_
      cases (seedSelection groups).isChecked id <;> simp
  | false =>
    simp only [changeBetween, PermissionChange.oneWay, isChecked_setAll, Bool.false_eq_true, if_false]
    congr 1
    · refine List.filter_eq_nil_iff.2 fun id _ => ?_
      cases (seedSelection groups).isChecked id <;> simp
    · refine List.filter_congr fun id _ => ?_
      cases (seedSelection groups).isChecked id <;> simp

theorem mem_grantedIds_setAll (h : (permissionIds groups).Nodup) (grant : Bool) {ids : List String}
    (hknown : ∀ id ∈ ids, id ∈ permissionIds groups) (id : String) :
    id ∈ grantedIds (storedAfter groups (setAll groups grant ids)) ↔
      if grant then id ∈ grantedIds groups ∨ id ∈ ids else id ∈ grantedIds groups ∧ id ∉ ids := by
  rw [mem_grantedIds_storedAfter h, mem_grantedIds h, isChecked_setAll]
  by_cases hid : id ∈ ids
  · cases grant <;> simp [hid, hknown id hid]
  · cases grant <;> simp [hid]

/-- What is printed of a change is one line for each id. -/
theorem report_oneWay (grant : Bool) (ids : List String) :
    Report.change (.oneWay grant ids) =
      if ids = [] then "no changes\n"
      else String.join (ids.map fun id => (if grant then "+ " else "- ") ++ id ++ "\n") := by
  cases ids with
  | nil => cases grant <;> rfl
  | cons id rest =>
    have hchanges : (PermissionChange.oneWay grant (id :: rest)).isEmpty = false :=
      Bool.eq_false_iff.2 (mt isEmpty_oneWay_iff.1 (List.cons_ne_nil id rest))
    rw [Report.change, hchanges, if_neg Bool.false_ne_true, if_neg (List.cons_ne_nil id rest), ← String.toList_inj,
      String.toList_join, List.flatMap_map]
    cases grant <;> simp [PermissionChange.oneWay]

/-! ## What is asked -/

variable {σ ε β : Type} {dir : Directory σ ε} {works : σ → Prop} {template : σ → Option (List PermissionGroup)}
  {elsewhere : σ → β} {role : String} {start : Session σ}

theorem loadMatrix_of_keeps
    (hkeeps : Keeps (dir.rolePermissions role) (dir.saveRolePermissions role) works template id elsewhere)
    (hworks : works start.backend) (hrole : template start.backend = some groups)
    (hids : (permissionIds groups).Nodup) :
    ∃ s : Session σ, dir.journaled.loadMatrix role (start.withJournal []) =
        .ok ⟨groups, seedSelection groups⟩ (s.withJournal [.rolePermissions role]) ∧
      works s.backend ∧ template s.backend = some groups ∧ elsewhere s.backend = elsewhere start.backend := by
  obtain ⟨s, hread, hkept⟩ := hkeeps.read_ok start groups hworks hrole
  exact ⟨s, Directory.loadMatrix_eq_ok (journaled_eq_ok hread (.rolePermissions role) []) hids, hkept⟩

/-- A save is sent and read back, or there is nothing to send. -/
theorem saveMatrix_stores
    (hkeeps : Keeps (dir.rolePermissions role) (dir.saveRolePermissions role) works template id elsewhere)
    (hworks : works start.backend) (hrole : template start.backend = some groups)
    (hids : (permissionIds groups).Nodup) (s : Selection) (before : List Request) :
    let m : PermissionMatrix := ⟨groups, seedSelection groups⟩
    let stored := storedAfter groups s
    ∃ refreshed, ∃ done : Session σ, dir.journaled.saveMatrix role m s (start.withJournal before) =
        .ok (m.change s, refreshed) (done.withJournal (before ++
          if (m.change s).isEmpty then [] else [.saveRolePermissions role stored, .rolePermissions role])) ∧
      works done.backend ∧ template done.backend = some stored ∧ elsewhere done.backend = elsewhere start.backend := by
  intro m stored
  cases hempty : (m.change s).isEmpty with
  | true =>
    have hstored : stored = groups := if_pos hempty
    refine ⟨m, start.noted (.permissionsUnchanged role), ?_, hworks, hstored ▸ hrole, rfl⟩
    rw [if_pos rfl, List.append_nil]
    exact Directory.saveMatrix_unchanged dir.journaled role (start.withJournal before) hempty
  | false =>
    have hstored : stored = rebuild groups s := if_neg (Bool.eq_false_iff.1 hempty)
    obtain ⟨done, hrun, hkept⟩ := Directory.saveMatrix_of_keeps hkeeps hworks hids hempty before
    refine ⟨⟨rebuild groups s, seedSelection (rebuild groups s)⟩, done, ?_, hstored ▸ hkept⟩
    rw [hrun, if_neg Bool.false_ne_true, hstored, List.append_assoc]
    rfl

/-! ## The commands -/

/-- The command that grants permissions or revokes them. -/
def PermissionCommand.setting : Bool → String → List String → PermissionCommand
  | true => .grant
  | false => .revoke

namespace Command

theorem run_setting (dir : Directory σ ε) (grant : Bool) (role : String) (ids : List String) :
    run dir (.permissions (.setting grant role ids)) = runSet dir role ids grant := by
  cases grant <;> rfl

theorem transparent_runSet (dir : Directory σ ε) (role : String) (ids : List String) (checked : Bool) :
    Transparent (runSet dir.journaled role ids checked) (runSet dir role ids checked) :=
  ((dir.transparent_loadMatrix role).mapFailure _).bind fun _ =>
    ((transparent_ofExcept _).mapFailure _).bind fun _ =>
      ((dir.transparent_saveMatrix role _ _).mapFailure _).bind fun _ => transparent_pure _

theorem during_eq_ok {α : Type} {x : Action σ (Failure ε) α} {s s' : Session σ} {a : α} (h : x s = .ok a s')
    (task : Task) : during task x s = .ok a s' :=
  mapFailure_eq_ok h _

theorem checking_ok {α : Type} (a : α) (s : Session σ) : checking (.ok a : Except (Failure ε) α) s = .ok a s := rfl

theorem checking_error {α : Type} (e : Failure ε) (s : Session σ) :
    checking (.error e : Except (Failure ε) α) s = .error ⟨none, e⟩ s := rfl

/-- An id that no action has ends the command before anything is saved. -/
theorem runSet_of_unknown
    (hkeeps : Keeps (dir.rolePermissions role) (dir.saveRolePermissions role) works template id elsewhere)
    (hworks : works start.backend) (hrole : template start.backend = some groups)
    (hids : (permissionIds groups).Nodup) (grant : Bool) {before after : List String} {unknown : String}
    (hbefore : ∀ known ∈ before, known ∈ permissionIds groups) (hunknown : unknown ∉ permissionIds groups) :
    ∃ failed : Session σ, runSet dir.journaled role (before ++ unknown :: after) grant (start.withJournal []) =
        .error ⟨none, .unknownPermission unknown⟩ (failed.withJournal [.rolePermissions role]) ∧
      works failed.backend ∧ template failed.backend = some groups ∧
      elsewhere failed.backend = elsewhere start.backend := by
  obtain ⟨s, hload, hkept⟩ := loadMatrix_of_keeps hkeeps hworks hrole hids
  refine ⟨s, ?_, hkept⟩
  rw [runSet, bind_eq_of_ok (during_eq_ok hload _), checkKnown_eq_error hbefore hunknown]
  exact bind_eq_of_error (checking_error _ _) _

theorem runSet_of_known
    (hkeeps : Keeps (dir.rolePermissions role) (dir.saveRolePermissions role) works template id elsewhere)
    (hworks : works start.backend) (hrole : template start.backend = some groups)
    (hids : (permissionIds groups).Nodup) (grant : Bool) {ids : List String}
    (hknown : ∀ id ∈ ids, id ∈ permissionIds groups) :
    let stored := storedAfter groups (setAll groups grant ids)
    let turned := turnedIds groups stored
    ∃ done : Session σ, runSet dir.journaled role ids grant (start.withJournal []) =
        .ok (Report.change (.oneWay grant turned)) (done.withJournal (.rolePermissions role ::
          if turned = [] then [] else [.saveRolePermissions role stored, .rolePermissions role])) ∧
      works done.backend ∧ template done.backend = some stored ∧ elsewhere done.backend = elsewhere start.backend := by
  intro stored turned
  obtain ⟨s, hload, hworks', hrole', hsame⟩ := loadMatrix_of_keeps hkeeps hworks hrole hids
  obtain ⟨refreshed, done, hsave, hworks'', htemplate, helsewhere⟩ :=
    saveMatrix_stores hkeeps hworks' hrole' hids (setAll groups grant ids) [.rolePermissions role]
  have hchange : (PermissionMatrix.mk groups (seedSelection groups)).change (setAll groups grant ids) =
      .oneWay grant turned := change_setAll hids grant ids
  simp only [hchange, isEmpty_oneWay_iff] at hsave
  refine ⟨done, ?_, hworks'', htemplate, helsewhere.trans hsame⟩
  rw [runSet, bind_eq_of_ok (during_eq_ok hload _), checkKnown_eq_ok_iff.2 hknown, bind_eq_of_ok (checking_ok _ _)]
  exact bind_eq_of_ok (during_eq_ok hsave _) _

/-- What a command that grants or revokes does, at any directory that keeps what it is sent for the role. The first id
that no action has is refused, and nothing is saved. Otherwise the actions that it names end up as it wants them and
all others stay as they were. That takes a save if any of them turned, and those are printed, each once and in
template order. -/
theorem sets_named_permissions
    (hkeeps : Keeps (dir.rolePermissions role) (dir.saveRolePermissions role) works template id elsewhere)
    (hworks : works start.backend) (hrole : template start.backend = some groups)
    (hids : (permissionIds groups).Nodup) (grant : Bool) (ids : List String) :
    let command := Command.permissions (.setting grant role ids)
    (∀ before unknown after, ids = before ++ unknown :: after → (∀ known ∈ before, known ∈ permissionIds groups) →
      unknown ∉ permissionIds groups →
      ∃ failed, run dir command start = .error ⟨none, .unknownPermission unknown⟩ failed ∧
        works failed.backend ∧ template failed.backend = some groups ∧
        elsewhere failed.backend = elsewhere start.backend ∧
        dir.requestsOf (run · command) start = [.rolePermissions role]) ∧
    ((∀ id ∈ ids, id ∈ permissionIds groups) →
      ∃ stored done, let turned := turnedIds groups stored
        run dir command start = .ok (if turned = [] then "no changes\n"
          else String.join (turned.map fun id => (if grant then "+ " else "- ") ++ id ++ "\n")) done ∧
        works done.backend ∧ template done.backend = some stored ∧
        elsewhere done.backend = elsewhere start.backend ∧ unmarked stored = unmarked groups ∧
        (∀ id, id ∈ grantedIds stored ↔
          if grant then id ∈ grantedIds groups ∨ id ∈ ids else id ∈ grantedIds groups ∧ id ∉ ids) ∧
        (turned = [] ↔ ∀ id, id ∈ grantedIds stored ↔ id ∈ grantedIds groups) ∧
        dir.requestsOf (run · command) start = .rolePermissions role ::
          if turned = [] then [] else [.saveRolePermissions role stored, .rolePermissions role]) := by
  intro command
  have htransparent : Transparent (run dir.journaled command) (run dir command) := by
    rw [run_setting, run_setting]
    exact transparent_runSet dir role ids grant
  constructor
  · rintro before unknown after rfl hbefore hunknown
    obtain ⟨failed, hrun, hworks', hrole', hsame⟩ := runSet_of_unknown hkeeps hworks hrole hids grant hbefore hunknown
    rw [← run_setting] at hrun
    obtain ⟨hplain, hrequests⟩ := requests_of_error (run · command) htransparent hrun
    exact ⟨failed, hplain, hworks', hrole', hsame, hrequests⟩
  · intro hknown
    obtain ⟨done, hrun, hworks', htemplate, helsewhere⟩ := runSet_of_known hkeeps hworks hrole hids grant hknown
    rw [← run_setting, report_oneWay] at hrun
    obtain ⟨hplain, hrequests⟩ := requests_of_ok (run · command) htransparent hrun
    exact ⟨storedAfter groups (setAll groups grant ids), done, hplain, hworks', htemplate, helsewhere,
      unmarked_storedAfter groups _, mem_grantedIds_setAll hids grant hknown, turnedIds_eq_nil_iff hids _, hrequests⟩

/-- A permission that was granted already and one that is named twice, and then a revocation of which the second id
is unknown, both behind a client. -/
theorem sets_named_permissions_over_http :
    let action (name : String) (mark : UInt8) : PermissionAction := ⟨name, name, "", mark, 0⟩
    let groups : List PermissionGroup :=
      [⟨"org", "Organization", [⟨"dept", "Departments", [action "read" 1, action "write" 0]⟩]⟩]
    let client : Client := ⟨⟨"http", none, some (.domain "localhost"), none, [""], none, none⟩, "", ""⟩
    let dir := client.directory RouteBackend.send
    let target := "/api/roles/admin/permissions"
    let start : Session RouteBackend := ⟨.keeping target (Json.array (groups.map Wire.groupJson)).compress, []⟩
    let grants := Command.permissions (.grant "admin" ["org_dept_write", "org_dept_read", "org_dept_write"])
    let revokes := Command.permissions (.revoke "admin" ["org_dept_read", "org_dept_close", "org_dept_open"])
    (permissionIds groups).Nodup ∧
    (∃ stored done, run dir grants start = .ok "+ org_dept_write\n" done ∧
      RouteBackend.recordsAt Wire.groups target done.backend = some stored ∧
      (∀ id, id ∈ grantedIds stored ↔ id = "org_dept_read" ∨ id = "org_dept_write") ∧
      dir.requestsOf (run · grants) start =
        [.rolePermissions "admin", .saveRolePermissions "admin" stored, .rolePermissions "admin"]) ∧
    ∃ failed, run dir revokes start = .error ⟨none, .unknownPermission "org_dept_close"⟩ failed ∧
      RouteBackend.recordsAt Wire.groups target failed.backend = some groups ∧
      dir.requestsOf (run · revokes) start = [.rolePermissions "admin"] := by
  intro action groups client dir target start grants revokes
  have hids : (permissionIds groups).Nodup := by decide
  have htext := Wire.faithful_group.list.readText_eq (by decide)
  have hserves : RouteBackend.Serves target start.backend := RouteBackend.serves_keeping target _
  have hrole := RouteBackend.recordsAt_keeping (htext groups) target
  have hurl : (client.endpoint ["roles", "admin", "permissions"]).target = target := by decide +kernel
  have hstores := RouteBackend.stores (client.endpoint ["roles", "admin", "permissions"]) client.authorization htext
  rw [hurl] at hstores
  have hkeeps := Client.keeps_template (by decide +kernel) hstores
  refine ⟨hids, ?_, ?_⟩
  · obtain ⟨stored, done, hrun, -, hstored, -, -, hgranted, -, hrequests⟩ :=
      (sets_named_permissions hkeeps hserves hrole hids true
        ["org_dept_write", "org_dept_read", "org_dept_write"]).2 (by decide)
    have hturned : turnedIds groups stored = ["org_dept_write"] := by
      simp only [turnedIds, hgranted]
      decide +kernel
    rw [hturned] at hrun hrequests
    refine ⟨stored, done, hrun, hstored, fun id => (hgranted id).trans ?_, hrequests⟩
    have hread : grantedIds groups = ["org_dept_read"] := by decide
    rw [if_pos rfl, hread]
    grind
  · obtain ⟨failed, hrun, -, hkept, -, hrequests⟩ :=
      (sets_named_permissions hkeeps hserves hrole hids false
        ["org_dept_read", "org_dept_close", "org_dept_open"]).1 ["org_dept_read"] "org_dept_close" ["org_dept_open"]
        rfl (by decide) (by decide)
    exact ⟨failed, hrun, hkept, hrequests⟩

end Command

end OrgConsole
