import OrgConsole.Proofs.Permission.Seed
/-!
# Writing a selection into a template

What is written into a template is there to be read: its rows and its seed are those of the selection.
Of two selections written one after the other the second counts. All of this holds whether ids are
shared or not. Only reading first and writing back what was read needs distinct ids, and marks that say
either yes or no.
-/

namespace OrgConsole

variable {groups : List PermissionGroup}

theorem mark_of_mem_leaves_rebuild {s : Selection} {l : Leaf} (h : l ∈ leaves (rebuild groups s)) :
    l.action.mark = if s.isChecked l.id then 1 else 0 := by
  rw [leaves_rebuild] at h
  obtain ⟨l, -, rfl⟩ := List.mem_map.1 h
  rfl

/-! ## Written, then read -/

/-- Rows do not show marks. -/
theorem flatten_rebuild (groups : List PermissionGroup) (s t : Selection) :
    flatten (rebuild groups s) t = flatten groups t := by
  rw [flatten, flatten, leaves_rebuild, List.map_map]
  rfl

theorem flatten_seed_rebuild (groups : List PermissionGroup) (s : Selection) :
    flatten (rebuild groups s) (seedSelection (rebuild groups s)) = flatten groups s := by
  rw [flatten_rebuild]
  exact (sameChecks_seed_rebuild groups s).flatten_eq.symm

/-! ## Written twice -/

theorem rebuild_rebuild (groups : List PermissionGroup) (t s : Selection) :
    rebuild (rebuild groups t) s = rebuild groups s := by
  rw [rebuild_eq_onActions, rebuild_eq_onActions groups t, onActions_onActions (keepsName_remark t)]
  rfl

theorem rebuild_seed_rebuild (groups : List PermissionGroup) (s : Selection) :
    rebuild (rebuild groups s) (seedSelection (rebuild groups s)) = rebuild groups s := by
  rw [rebuild_rebuild]
  exact (sameChecks_seed_rebuild groups s).rebuild_eq.symm

/-! ## Read, then written -/

/-- Every mark says that the action is granted or that it is not. -/
def PlainlyMarked (groups : List PermissionGroup) : Prop :=
  ∀ l ∈ leaves groups, l.action.mark = 0 ∨ l.action.mark = 1

theorem onActions_id (groups : List PermissionGroup) : onActions (fun _ a => a) groups = groups := by
  simp only [onActions, List.map_id']

theorem remark_of_mark {a : PermissionAction} {s : Selection} {id : String} (hmark : a.mark = 0 ∨ a.mark = 1)
    (hid : s.isChecked id = (a.mark == 1)) : a.remark s id = a := by
  obtain ⟨action, actionName, description, mark, sortOrder⟩ := a
  rcases hmark with rfl | rfl <;> simp_all [PermissionAction.remark]

theorem rebuild_seed (hids : (permissionIds groups).Nodup) (hmarks : PlainlyMarked groups) :
    rebuild groups (seedSelection groups) = groups := by
  rw [rebuild_eq_onActions]
  refine Eq.trans (onActions_congr fun l hl => ?_) (onActions_id groups)
  exact remark_of_mark (hmarks l hl) (isChecked_seed_of_nodup hids hl)

/-- Writing a selection into a template changes nothing but marks, and those are what the selection
says. The rows of the selection are the rows of what was written, so writing those again changes
nothing, and what was written before does not matter. A template of distinct ids whose marks are all
`0` or `1` comes back from its own seed. -/
theorem rebuild_seed_flatten_agree (groups : List PermissionGroup) (s t : Selection) :
    unmarked (rebuild groups s) = unmarked groups ∧
      (∀ l ∈ leaves (rebuild groups s), l.action.mark = if s.isChecked l.id then 1 else 0) ∧
      flatten (rebuild groups s) (seedSelection (rebuild groups s)) = flatten groups s ∧
      rebuild (rebuild groups s) (seedSelection (rebuild groups s)) = rebuild groups s ∧
      rebuild (rebuild groups t) s = rebuild groups s ∧
      ((permissionIds groups).Nodup → PlainlyMarked groups → rebuild groups (seedSelection groups) = groups) :=
  ⟨unmarked_rebuild groups s, fun _ => mark_of_mem_leaves_rebuild, flatten_seed_rebuild groups s,
    rebuild_seed_rebuild groups s, rebuild_rebuild groups t s, rebuild_seed⟩

/-- Two actions of one domain, one granted and one not, and a resource without actions. -/
theorem rebuild_seed_two_actions :
    let action (name : String) (mark : UInt8) : PermissionAction := ⟨name, name, "", mark, 0⟩
    let groups : List PermissionGroup :=
      [⟨"org", "Organization", [⟨"dept", "Departments", [action "read" 1, action "write" 0]⟩, ⟨"role", "Roles", []⟩]⟩]
    (permissionIds groups).Nodup ∧ PlainlyMarked groups ∧ rebuild groups (seedSelection groups) = groups ∧
      rebuild (rebuild groups .empty) (seedSelection groups) = groups := by
  intro action groups
  have hids : (permissionIds groups).Nodup := by decide
  have hmarks : PlainlyMarked groups := by
    unfold PlainlyMarked
    decide
  obtain ⟨-, -, -, -, hagain, hback⟩ := rebuild_seed_flatten_agree groups (seedSelection groups) .empty
  exact ⟨hids, hmarks, hback hids hmarks, hagain.trans (hback hids hmarks)⟩

end OrgConsole
