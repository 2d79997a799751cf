import OrgConsole.Failure
import OrgConsole.Forest.Lookup
import OrgConsole.Membership
/-!
# Memberships in departments of the forest

A department is named by its key or by its id. A corporation has no members.
-/

namespace OrgConsole

/-- A membership in the department of a node. -/
def Membership.inNode {ε : Type} (n : OrgNode) (jobTitle : Option String) : Except (Failure ε) Membership :=
  if n.label.isCorp then .error (.notADepartment n.label.id)
  else .ok {
    departmentId := n.label.id
    departmentName := n.label.title
    corpId := n.label.corpId
    corpName := n.label.corpName
    jobTitle := jobTitle
    isPrimary := false
    departmentPath := some n.label.path }

/-- A membership in the department that is named by its key or else by its id. -/
def Membership.inForest {ε : Type} (forest : List OrgNode) (department : String) (jobTitle : Option String) :
    Except (Failure ε) Membership :=
  match (findNode? forest department).or (findDepartment? forest department) with
  | some n => Membership.inNode n jobTitle
  | none => .error (.nodeNotFound department)

/-! ## What a membership depends on -/

/-- The membership in the department of a node. -/
def NodeInfo.membership (i : NodeInfo) (jobTitle : Option String) : Membership where
  departmentId := i.id
  departmentName := i.title
  corpId := i.corpId
  corpName := i.corpName
  jobTitle := jobTitle
  isPrimary := false
  departmentPath := some i.path

/-- The node that is looked up, by its key and then by its id. -/
def nodeNamed? (nodes : List NodeInfo) (name : String) : Option NodeInfo :=
  (nodes.find? (·.key = name)).or (nodes.find? (·.key = deptKey name))

/-- A membership depends on what the console shows of the node that is looked up and on nothing else. -/
theorem inForest_eq {ε : Type} (forest : List OrgNode) (name : String) (jobTitle : Option String) :
    (Membership.inForest forest name jobTitle : Except (Failure ε) Membership) =
      match nodeNamed? (Tree.labels forest) name with
      | some i => if i.isCorp then .error (.notADepartment i.id) else .ok (i.membership jobTitle)
      | none => .error (.nodeNotFound name) := by
  have hlabel : ((findNode? forest name).or (findDepartment? forest name)).map (·.label) =
      nodeNamed? (Tree.labels forest) name := by
    rw [Option.map_or, label_findNode?, findDepartment?, label_findNode?, nodeNamed?]
  rw [← hlabel, Membership.inForest]
  cases (findNode? forest name).or (findDepartment? forest name) <;> rfl

end OrgConsole
