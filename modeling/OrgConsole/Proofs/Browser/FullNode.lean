import OrgConsole.Proofs.Browser.Parent
import OrgConsole.Proofs.Forest.Lookup
/-!
# The full node behind a row

The rows show nodes as a search leaves them, and the detail pane looks the selected key up in the whole
forest. Where no key repeats the two are the same node: the detail pane shows all of what the search shows
a part of.
-/

namespace OrgConsole.Browser

variable {b : Browser}

/-- A row's node is found in the whole forest, and is what the search leaves of it. -/
theorem Reachable.exists_whole {P : List OrgNode → Prop} (h : Reachable P b) (hdistinct : DistinctKeys b.forest)
    {r : Forest.Row} (hr : r ∈ b.rows) :
    ∃ whole, findNode? b.forest r.node.label.key = some whole ∧
      r.node = ⟨whole.label, searchForest whole.children b.search⟩ := by
  have hmem : r.node ∈ Tree.allSubtrees b.view := Forest.mem_allSubtrees_of_row hr
  rw [h.view_eq] at hmem
  exact OrgConsole.exists_whole hdistinct b.search hmem

/-- A node that is selected under the cursor is looked up by its key. -/
theorem selectedNode?_selectCursor {n : OrgNode} (hn : b.cursorNode? = some n) :
    b.selectCursor.1.selectedNode? = findNode? b.forest n.label.key := by
  have hforest : b.selectCursor.1.forest = b.forest := congrArg Outline.forest b.outline_selectCursor
  rw [selectedNode?, selected_selectCursor hn, Option.bind_some, hforest]

/-- In every forest in which no key repeats, a key is found in what a search leaves exactly if it is found in the
forest at a node with a hit at or below it, and what is found is that node with what the search leaves of its
children. So in every browser that shows such a forest each row has the key of a node of the whole forest, which
differs in its children alone, and selecting under the cursor puts that node into the detail pane. -/
theorem full_node_behind_row :
    (∀ forest, DistinctKeys forest → ∀ search, search ≠ "" → ∀ key n,
      findNode? (searchForest forest search) key = some n ↔
        ∃ whole, findNode? forest key = some whole ∧ whole.hasHit (·.isHit search) = true ∧
          n = ⟨whole.label, searchForest whole.children search⟩) ∧
    ∀ b, Reachable (fun _ => True) b → DistinctKeys b.forest →
      (∀ r ∈ b.rows, ∃ whole, findNode? b.forest r.node.label.key = some whole ∧
        r.node = ⟨whole.label, searchForest whole.children b.search⟩) ∧
      ∀ n, b.cursorNode? = some n → ∃ whole, b.selectCursor.1.selectedNode? = some whole ∧
        n = ⟨whole.label, searchForest whole.children b.search⟩ := by
  refine ⟨fun forest hdistinct search hsearch key n => findNode?_searchForest hdistinct hsearch, ?_⟩
  intro b h hdistinct
  refine ⟨fun r hr => h.exists_whole hdistinct hr, fun n hn => ?_⟩
  obtain ⟨r, hr, rfl⟩ := Option.map_eq_some_iff.1 hn
  rw [selectedNode?_selectCursor hn]
  exact h.exists_whole hdistinct (List.mem_of_getElem? hr)

/-- The search leaves one of a department's two children; the cursor is on the department, and the detail pane shows
both. -/
theorem full_node_behind_row_of_search :
    let eng := (RawNode.dept "d1" "Eng").withChildren [.dept "d2" "Platform", .dept "d3" "Data"]
    let forest := buildForest [(RawNode.corp "c1" "Acme").withChildren [eng, .dept "d4" "Sales"]]
    let keys : List Key := [.char '/', .char 'F', .char 'o', .enter, .down]
    let b := keys.foldl (fun b key => (b.handle key).1) (new.requestTree.1.receive (.tree ⟨1⟩ (.ok forest)))
    Reachable (fun _ => True) b ∧ DistinctKeys b.forest ∧ b.search = "Fo" ∧
      b.rows.map (·.node.label.title) = ["Acme", "Eng", "Platform"] ∧
      ∃ n whole, b.cursorNode? = some n ∧ b.selectCursor.1.selectedNode? = some whole ∧
        n = ⟨whole.label, searchForest whole.children "Fo"⟩ ∧
        n.children.map (·.label.title) = ["Platform"] ∧ whole.children.map (·.label.title) = ["Platform", "Data"] := by
  intro eng forest keys b
  have h : Reachable (fun _ => True) b :=
    (Reachable.receive _ (.load .new) fun _ _ _ _ => trivial).handleAll (by decide)
  have hdistinct : DistinctKeys b.forest := by
    unfold DistinctKeys
    decide +kernel
  have hsearch : b.search = "Fo" := by decide +kernel
  have hchildren : b.cursorNode?.map (·.children.map (·.label.title)) = some ["Platform"] := by decide +kernel
  obtain ⟨n, hn, hpart⟩ := Option.map_eq_some_iff.1 hchildren
  obtain ⟨whole, hwhole, hcut⟩ := (full_node_behind_row.2 b h hdistinct).2 n hn
  have hshown : b.selectCursor.1.selectedNode?.map (·.children.map (·.label.title)) = some ["Platform", "Data"] := by
    decide +kernel
  rw [hwhole] at hshown
  exact ⟨h, hdistinct, hsearch, by decide +kernel, n, whole, hn, hwhole, hsearch ▸ hcut, hpart,
    Option.some.inj hshown⟩

end OrgConsole.Browser
