import OrgConsole.Proofs.Forest.Opening
import OrgConsole.Report
/-!
# A forest unfolded

What is open in a forest that has just been loaded is found by a walk that turns back at the first node that is too
deep or has no children. Levels grow on the way down, in a built forest and in what a search leaves of it, so the
walk turns back only where nothing is left to find. With the keys of all nodes with children every node has its row,
and the report of an organization has one entry for each.
-/

namespace OrgConsole

namespace Report

/-- The entry of a node, two spaces further in for each level: its title, its kind and its id. -/
def entry (i : NodeInfo) : String :=
  String.ofList (List.replicate (2 * i.level) ' ') ++ i.title ++ (if i.kind = .corp then "  (corp " else "  (dept ") ++
    i.id ++ ")\n"

theorem toList_entry (i : NodeInfo) : (entry i).toList = nodeLine i := by
  by_cases hcorp : i.kind = .corp <;> simp [entry, nodeLine, NodeInfo.isCorp, hcorp]

/-- The report of a forest whose nodes all have a row. -/
theorem forest_eq_join {nodes : List OrgNode}
    (hall : (Forest.rows (Forest.parentKeys nodes) nodes).map (·.node) = Tree.allSubtrees nodes) :
    forest nodes = String.join ((Tree.labels nodes).map entry) := by
  have hlabels : (Forest.rows (Forest.parentKeys nodes) nodes).map (·.node.label) = Tree.labels nodes := by
    rw [Tree.labels, ← hall, List.map_map]
    rfl
  rw [← String.toList_inj, String.toList_join, forest, String.toList_ofList, ← hlabels, List.flatMap_map,
    List.flatMap_map]
  simp only [toList_entry]

end Report

/-- In what a search leaves of a built forest, be it all of it, the keys that are found for a depth are those of the
nodes that have children and a level above that depth. No forest may be so deep that levels run out of numbers; then
with the keys of all nodes with children the rows are all nodes in pre-order, and the report has one entry for each
of them, two spaces further in for each level. -/
theorem unfolded_shows_all (raw : List RawNode) (hdepth : Tree.depth raw ≤ Forest.unlimitedDepth) (search : String) :
    let found := searchForest (buildForest raw) search
    (∀ depth key, (Forest.defaultExpanded found depth).contains key = true ↔
        ∃ n ∈ Tree.allSubtrees found, n.hasChildren = true ∧ n.label.level < depth ∧ n.label.key = key) ∧
      (∀ key, (Forest.parentKeys found).contains key = true ↔
        ∃ n ∈ Tree.allSubtrees found, n.hasChildren = true ∧ n.label.key = key) ∧
      (Forest.rows (Forest.parentKeys found) found).map (·.node) = Tree.allSubtrees found ∧
      (Forest.rows (Forest.parentKeys found) found).length = Tree.sizes found ∧
      Report.forest found = String.join ((Tree.labels found).map Report.entry) := by
  intro found
  have hlevels : Leveled found := (leveled_buildForest raw).searchForest search
  have hparents : ∀ key, (Forest.parentKeys found).contains key = true ↔
      ∃ n ∈ Tree.allSubtrees found, n.hasChildren = true ∧ n.label.key = key :=
    fun _ => Forest.contains_parentKeys_iff ((shallow_buildForest hdepth).searchForest search)
  have hnodes : (Forest.rows (Forest.parentKeys found) found).map (·.node) = Tree.allSubtrees found :=
    Forest.nodes_rows_of_open fun n hn hchildren => (hparents _).2 ⟨n, hn, hchildren, rfl⟩
  refine ⟨fun depth key => ?_, hparents, hnodes, ?_, Report.forest_eq_join hnodes⟩
  · refine Forest.contains_defaultExpanded_iff fun n hn i hi hlevel => ?_
    exact (hlevels.level_lt hn hi).trans hlevel
  · rw [← Tree.length_allSubtrees, ← hnodes, List.length_map]

/-- Two departments share a key. The search leaves the one with children, which is too deep to be open at first. -/
theorem unfolded_shows_all_found :
    let data := (RawNode.dept "d2" "Data").withChildren [.dept "d3" "Lab"]
    let eng := (RawNode.dept "d1" "Eng").withChildren [data, .dept "d4" "Web"]
    let raw := [(RawNode.corp "c1" "Acme").withChildren [eng, .dept "d2" "Sales"]]
    let found := searchForest (buildForest raw) "la"
    Tree.depth raw ≤ Forest.unlimitedDepth ∧
      (Forest.defaultExpanded found 2).contains "dept_d1" = true ∧
      (Forest.defaultExpanded found 2).contains "dept_d2" = false ∧
      (Forest.parentKeys found).contains "dept_d2" = true ∧
      (Forest.rows (Forest.parentKeys found) found).length = 4 ∧
      Report.forest found = "Acme  (corp c1)\n  Eng  (dept d1)\n    Data  (dept d2)\n      Lab  (dept d3)\n" := by
  intro data eng raw found
  have hdepth : Tree.depth raw ≤ Forest.unlimitedDepth := by decide
  obtain ⟨-, -, -, hlength, hreport⟩ := unfolded_shows_all raw hdepth "la"
  exact ⟨hdepth, by decide +kernel, by decide +kernel, by decide +kernel, hlength.trans (by decide +kernel),
    hreport.trans (by decide +kernel)⟩

end OrgConsole
