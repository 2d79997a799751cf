import OrgConsole.Forest.Node
/-!
# Looking nodes up

A node is looked up by its key, depth first. Keys may repeat in a forest; then the first node in
pre-order answers.
-/

namespace OrgConsole

mutual

/-- The first node of a tree with a key: its root, or else one below it. -/
def OrgNode.find? : (n : OrgNode) → (key : String) → Option OrgNode
  | ⟨info, children⟩, key => if info.key = key then some ⟨info, children⟩ else findNode? children key

/-- The first node of a forest with a key. -/
def findNode? : (forest : List OrgNode) → (key : String) → Option OrgNode
  | [], _ => none
  | n :: rest, key => (OrgNode.find? n key).or (findNode? rest key)

end

/-- The first department with an id. -/
def findDepartment? (forest : List OrgNode) (id : String) : Option OrgNode :=
  findNode? forest (deptKey id)

/-! ## Depth first is pre-order -/

mutual

theorem OrgNode.find?_eq (key : String) : ∀ n : OrgNode,
    OrgNode.find? n key = n.subtrees.find? fun m => m.label.key = key
  | ⟨info, children⟩ => by
    rw [OrgNode.find?, Tree.subtrees, List.find?_cons, findNode?_eq key children]
    by_cases h : info.key = key <;> simp [h]

theorem findNode?_eq (key : String) : ∀ forest : List OrgNode,
    findNode? forest key = (Tree.allSubtrees forest).find? fun m => m.label.key = key
  | [] => rfl
  | n :: rest => by
    rw [findNode?, Tree.allSubtrees, List.find?_append, OrgNode.find?_eq key n, findNode?_eq key rest]

end

/-- What is found shows what the first label with the key shows. -/
theorem label_findNode? (forest : List OrgNode) (key : String) :
    (findNode? forest key).map (·.label) = (Tree.labels forest).find? (·.key = key) := by
  rw [findNode?_eq, Tree.labels, List.find?_map]
  rfl

end OrgConsole
