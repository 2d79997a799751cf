/-!
# Trees with ordered children

A forest is a list of trees. Every function on trees has a companion on forests, and the orders of
listing are all pre-order: a node, then its children from left to right.
-/

namespace OrgConsole

/-- A node with a label and children in order. -/
structure Tree (α : Type) where
  label : α
  children : List (Tree α)
deriving Repr, Inhabited

namespace Tree

variable {α : Type}

mutual

/-- How many nodes a tree has. -/
def size : Tree α → Nat
  | ⟨_, children⟩ => 1 + sizes children

/-- How many nodes a forest has. -/
def sizes : List (Tree α) → Nat
  | [] => 0
  | t :: rest => t.size + sizes rest

end

mutual

/-- The trees within a tree, in pre-order. -/
def subtrees : Tree α → List (Tree α)
  | ⟨label, children⟩ => ⟨label, children⟩ :: allSubtrees children

/-- The trees within a forest, in pre-order. -/
def allSubtrees : List (Tree α) → List (Tree α)
  | [] => []
  | t :: rest => t.subtrees ++ allSubtrees rest

end

/-- The labels of a forest, in pre-order. -/
def labels (forest : List (Tree α)) : List α :=
  (allSubtrees forest).map label

mutual

/-- What is left of a tree when only the nodes that satisfy `p` and their ancestors are kept. -/
def prune? (p : α → Bool) : Tree α → Option (Tree α)
  | ⟨label, children⟩ =>
    let kept := prune p children
    if kept.isEmpty && !p label then none else some ⟨label, kept⟩

/-- What is left of a forest when only the nodes that satisfy `p` and their ancestors are kept. -/
def prune (p : α → Bool) : List (Tree α) → List (Tree α)
  | [] => []
  | t :: rest =>
    match t.prune? p with
    | some t => t :: prune p rest
    | none => prune p rest

end

/-! ## Counting and listing agree -/

mutual

theorem length_subtrees : ∀ t : Tree α, t.subtrees.length = t.size
  | ⟨_, children⟩ => by
    simp only [subtrees, size, List.length_cons, length_allSubtrees children]
    omega

theorem length_allSubtrees : ∀ forest : List (Tree α), (allSubtrees forest).length = sizes forest
  | [] => rfl
  | t :: rest => by
    simp only [allSubtrees, sizes, List.length_append, length_subtrees t, length_allSubtrees rest]

end

end Tree

end OrgConsole
