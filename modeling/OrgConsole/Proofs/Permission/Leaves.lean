import OrgConsole.Permission.Matrix
/-!
# A template through its leaves

What is done to a template is done to its actions one by one, each of which is known by its id.
`onActions` is that one way of changing a template; writing a selection back is a case of it. Whatever
is made of a template and a selection depends on the selection only through the ids of the template.
-/

namespace OrgConsole

/-- The template with every action changed by `f`, which is told the action's id. -/
def onActions (f : String → PermissionAction → PermissionAction) (groups : List PermissionGroup) :
    List PermissionGroup :=
  groups.map fun g => { g with resources := g.resources.map fun r =>
    { r with actions := r.actions.map fun a => f (permissionId g.domain r.resource a.action) a } }

/-- The template without its marks. -/
def unmarked (groups : List PermissionGroup) : List PermissionGroup :=
  onActions (fun _ a => { a with mark := 0 }) groups

theorem rebuild_eq_onActions (groups : List PermissionGroup) (s : Selection) :
    rebuild groups s = onActions (fun id a => a.remark s id) groups := rfl

/-- The change leaves the name of the action alone, and so its id. -/
def KeepsName (f : String → PermissionAction → PermissionAction) : Prop :=
  ∀ id a, (f id a).action = a.action

theorem keepsName_remark (s : Selection) : KeepsName fun id a => a.remark s id := fun _ _ => rfl

variable {groups : List PermissionGroup} {f f' : String → PermissionAction → PermissionAction}

theorem mem_leaves {l : Leaf} : l ∈ leaves groups ↔ ∃ g ∈ groups, ∃ r ∈ g.resources, ∃ a ∈ r.actions,
    l = ⟨permissionId g.domain r.resource a.action, g.domain, g.domainName, r.resource, r.resourceName, a⟩ := by
  simp only [leaves, PermissionGroup.leaves, PermissionResource.leaves, List.mem_flatMap, List.mem_map, eq_comm]

theorem leaves_onActions (hf : KeepsName f) (groups : List PermissionGroup) :
    leaves (onActions f groups) = (leaves groups).map fun l => { l with action := f l.id l.action } := by
  simp only [leaves, PermissionGroup.leaves, PermissionResource.leaves, onActions, List.flatMap_map, List.map_flatMap,
    List.map_map, Function.comp_def, hf _ _]

theorem onActions_congr (h : ∀ l ∈ leaves groups, f' l.id l.action = f l.id l.action) :
    onActions f' groups = onActions f groups := by
  refine List.map_congr_left fun g hg => ?_
  congr 1
  refine List.map_congr_left fun r hr => ?_
  congr 1
  exact List.map_congr_left fun a ha => h _ (mem_leaves.2 ⟨g, hg, r, hr, a, ha, rfl⟩)

theorem onActions_onActions (hf : KeepsName f) (f' : String → PermissionAction → PermissionAction)
    (groups : List PermissionGroup) :
    onActions f' (onActions f groups) = onActions (fun id a => f' id (f id a)) groups := by
  simp only [onActions, List.map_map, Function.comp_def, hf _ _]

/-! ## Writing a selection back -/

theorem leaves_rebuild (groups : List PermissionGroup) (s : Selection) :
    leaves (rebuild groups s) = (leaves groups).map fun l => { l with action := l.action.remark s l.id } := by
  rw [rebuild_eq_onActions, leaves_onActions (keepsName_remark s)]

/-- Writing a selection back changes marks only. -/
theorem unmarked_rebuild (groups : List PermissionGroup) (s : Selection) :
    unmarked (rebuild groups s) = unmarked groups := by
  rw [rebuild_eq_onActions, unmarked, onActions_onActions (keepsName_remark s)]
  rfl

theorem permissionIds_rebuild (groups : List PermissionGroup) (s : Selection) :
    permissionIds (rebuild groups s) = permissionIds groups := by
  simp only [permissionIds, leaves_rebuild, List.map_map, Function.comp_def]

/-! ## Selections that a template cannot tell apart -/

theorem id_mem_permissionIds {l : Leaf} (h : l ∈ leaves groups) : l.id ∈ permissionIds groups :=
  List.mem_map_of_mem h

/-- The selections check the same actions of the template. -/
def SameChecks (groups : List PermissionGroup) (s s' : Selection) : Prop :=
  ∀ id ∈ permissionIds groups, s'.isChecked id = s.isChecked id

variable {s s' : Selection}

theorem SameChecks.flatten_eq (h : SameChecks groups s s') : flatten groups s' = flatten groups s := by
  refine List.map_congr_left fun l hl => ?_
  rw [Leaf.row, Leaf.row, h l.id (id_mem_permissionIds hl)]

theorem SameChecks.rebuild_eq (h : SameChecks groups s s') : rebuild groups s' = rebuild groups s := by
  rw [rebuild_eq_onActions, rebuild_eq_onActions]
  refine onActions_congr fun l hl => ?_
  rw [PermissionAction.remark, PermissionAction.remark, h l.id (id_mem_permissionIds hl)]

theorem SameChecks.changeBetween_eq (h : SameChecks groups s s') (before : Selection) :
    changeBetween groups before s' = changeBetween groups before s := by
  unfold changeBetween
  congr 1 <;> refine List.filter_congr fun id hid => ?_ <;> rw [h id hid]

/-- Between selections that check the same actions nothing changes. -/
theorem SameChecks.changes_nothing (h : SameChecks groups s s') : changeBetween groups s s' = ⟨[], []⟩ := by
  unfold changeBetween
  congr 1 <;> refine List.filter_eq_nil_iff.2 fun id hid => ?_ <;> rw [h id hid] <;> simp

end OrgConsole
