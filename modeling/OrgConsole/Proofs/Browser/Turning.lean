import OrgConsole.Proofs.Browser.Selection
import OrgConsole.Proofs.Forest.InSight
/-!
# Opening and closing in place

Turning the node under the cursor opens it if it is closed and closes it if it is open. That is a matter of one
key among the expanded ones, and then all rows are listed anew. Where no key repeats, the list is nevertheless
the same as before but for one place: right after the node's own row, where the rows below it come or go.
-/

namespace OrgConsole

namespace Forest

variable {keys : KeySet} {forest : List OrgNode}

/-! ## Turning a row -/

/-- The node in a row is closed in the first list and open in the second, and right after it the second list has
more rows. All other rows are the same. -/
def OpensAt (row : Nat) (n : OrgNode) (more : List Row) (closed opened : List Row) : Prop :=
  ∃ before after, before.length = row ∧ closed = before ++ ⟨n, false⟩ :: after ∧
    opened = before ++ ⟨n, true⟩ :: (more ++ after)

/-- If no key repeats, a node that is opened gets the rows below it right after its own, and one that is closed
loses them. -/
theorem opensAt_turned (hdistinct : DistinctKeys forest) {row : Nat} {r : Row}
    (hrow : (rows keys forest)[row]? = some r) :
    OpensAt row r.node (rowsUnder keys r.node) (rows keys forest) (rows (turned keys r.node.label.key) forest) ∨
      OpensAt row r.node (rowsUnder keys r.node) (rows (turned keys r.node.label.key) forest) (rows keys forest) := by
  obtain ⟨before, after, hlength, haround⟩ := rows_around hdistinct hrow
  have hnow := haround keys (.refl _ keys)
  have hthen := haround _ (agreeBut_turned r.node.label.key keys)
  -- The node's own key opens none of those below it.
  have hbelow : rows (turned keys r.node.label.key) r.node.children = rows keys r.node.children :=
    (agreeBut_turned _ keys).rows_eq (hdistinct.below (mem_allSubtrees_of_row (List.mem_of_getElem? hrow)))
  rw [rowsBelow] at hnow hthen
  rw [contains_turned_self, hbelow] at hthen
  cases hopen : keys.contains r.node.label.key with
  | false =>
    simp only [hopen, Bool.not_false, Bool.false_eq_true, if_false, if_true] at hnow hthen
    exact .inl ⟨before, after, hlength, hnow, by rw [hthen, rowsUnder_eq]⟩
  | true =>
    simp only [hopen, Bool.not_true, Bool.false_eq_true, if_false, if_true] at hnow hthen
    exact .inr ⟨before, after, hlength, hthen, by rw [hnow, rowsUnder_eq]⟩

end Forest

namespace Browser

variable {b : Browser} {n : OrgNode}

/-! ## Pressing a key -/

theorem toggle_eq (hn : b.cursorNode? = some n) (hchildren : n.hasChildren = true) :
    b.toggle = { b with expanded := Forest.turned b.expanded n.label.key } := by
  simp only [toggle, changeExpanded, hn, hchildren, if_true, Forest.turned]

/-- Selecting leaves the keyboard where it is. -/
theorem pane_selectCursor (b : Browser) :
    b.selectCursor.1.pane = b.pane ∧ b.selectCursor.1.searching = b.searching := by
  rcases b.selectCursor_cases with h | ⟨i, -, -, h⟩
  · rw [h]
    exact ⟨rfl, rfl⟩
  · rw [h, requestStaff]
    cases i.isCorp <;> exact ⟨rfl, rfl⟩

/-- The keys that turn a node do so while the tree has the keyboard and no search is being typed. -/
theorem press_turns (hpane : b.pane = .tree) (hsearching : b.searching = false) (hn : b.cursorNode? = some n)
    (hchildren : n.hasChildren = true) {k : KeyPress} (hk : k.key ∈ [Key.enter, .char ' ']) :
    ∃ move, b.press k = some move ∧ move.1.pane = .tree ∧ move.1.searching = false ∧
      move.1.outline = { b.outline with expanded := Forest.turned b.expanded n.label.key } := by
  have hstays : ∀ key ∈ [Key.enter, .char ' '], key ∉ [Key.char 'q', .char 'c'] := by decide
  have hturns : ∀ key ∈ [Key.enter, .char ' '], b.pressTree key = b.toggle.selectCursor := by simp [pressTree]
  have hpress := press_of_tree hpane hsearching (hstays _ hk)
  rw [hturns _ hk, toggle_eq hn hchildren] at hpress
  obtain ⟨hpane', hsearching'⟩ := pane_selectCursor { b with expanded := Forest.turned b.expanded n.label.key }
  exact ⟨_, hpress, hpane'.trans hpane, hsearching'.trans hsearching, outline_selectCursor _⟩

/-- In every browser in whose view no key repeats, turning the node under the cursor puts the rows below it right
after its own or takes just these away. No other row changes, and the cursor stays on the node. Turning it again
undoes all of that. -/
theorem turning_in_place (b : Browser) (hdistinct : DistinctKeys b.view) (hpane : b.pane = .tree)
    (hsearching : b.searching = false) (n : OrgNode) (hn : b.cursorNode? = some n) (hchildren : n.hasChildren = true)
    (k : KeyPress) (hk : k.key ∈ [Key.enter, .char ' ']) :
    ∃ move again, b.press k = some move ∧ move.1.press k = some again ∧
      (Forest.OpensAt b.cursor n (Forest.rowsUnder b.expanded n) b.rows move.1.rows ∨
        Forest.OpensAt b.cursor n (Forest.rowsUnder b.expanded n) move.1.rows b.rows) ∧
      move.1.cursor = b.cursor ∧ move.1.cursorNode? = some n ∧
      again.1.rows = b.rows ∧ again.1.cursor = b.cursor ∧
      ∀ key, again.1.expanded.contains key = b.expanded.contains key := by
  obtain ⟨r, hr, rfl⟩ := Option.map_eq_some_iff.1 hn
  obtain ⟨move, hmove, hpane', hsearching', houtline⟩ := press_turns hpane hsearching hn hchildren hk
  have hrows : move.1.rows = Forest.rows (Forest.turned b.expanded r.node.label.key) b.view :=
    congrArg Outline.rows houtline
  have hcursor : move.1.cursor = b.cursor := congrArg Outline.cursor houtline
  have hn' : move.1.cursorNode? = some r.node := by
    rw [cursorNode?, hrows, hcursor]
    exact Forest.node_rows_of_agree hdistinct hr (Forest.agreeBut_turned _ b.expanded)
  obtain ⟨again, hagain, -, -, houtline'⟩ := press_turns hpane' hsearching' hn' hchildren hk
  have hexpanded : again.1.expanded = Forest.turned (Forest.turned b.expanded r.node.label.key) r.node.label.key := by
    have hmoved : move.1.expanded = Forest.turned b.expanded r.node.label.key := congrArg Outline.expanded houtline
    rw [← hmoved]
    exact congrArg Outline.expanded houtline'
  have hsame : ∀ key, again.1.expanded.contains key = b.expanded.contains key := by
    rw [hexpanded]
    exact Forest.contains_turned_turned b.expanded r.node.label.key
  have hview : again.1.view = b.view := by
    have hmoved : move.1.view = b.view := congrArg Outline.view houtline
    rw [← hmoved]
    exact congrArg Outline.view houtline'
  refine ⟨move, again, hmove, hagain, ?_, hcursor, hn', ?_, ?_, hsame⟩
  · rw [hrows]
    exact Forest.opensAt_turned hdistinct hr
  · rw [rows, hview]
    exact Forest.rows_congr fun i _ => hsame i.key
  · exact (congrArg Outline.cursor houtline').trans hcursor

/-- The node that is closed and opened again has an open one and a closed one below it, and one beside it. -/
theorem turning_in_place_around_open_node :
    let data := (RawNode.dept "d2" "Data").withChildren [.dept "d3" "Models"]
    let web := (RawNode.dept "d4" "Web").withChildren [.dept "d5" "Shop"]
    let eng := (RawNode.dept "d1" "Eng").withChildren [data, web]
    let forest := buildForest [(RawNode.corp "c1" "Acme").withChildren [eng, .dept "d6" "Sales"]]
    let loaded := new.requestTree.1.receive (.tree ⟨1⟩ (.ok forest))
    let keys : List Key := [.down, .right, .down, .right, .up]
    let b := keys.foldl (fun b key => (b.handle key).1) loaded
    DistinctKeys b.view ∧ b.pane = .tree ∧ b.searching = false ∧
      b.rows.map (·.node.label.title) = ["Acme", "Eng", "Data", "Models", "Web", "Sales"] ∧
      ∃ n move again, b.cursorNode? = some n ∧ n.hasChildren = true ∧ b.press ⟨.enter, false⟩ = some move ∧
        move.1.press ⟨.enter, false⟩ = some again ∧
        Forest.OpensAt 1 n (Forest.rowsUnder b.expanded n) move.1.rows b.rows ∧
        move.1.rows.map (·.node.label.title) = ["Acme", "Eng", "Sales"] ∧
        move.1.cursorNode? = some n ∧ again.1.rows = b.rows := by
  intro data web eng forest loaded keys b
  have hdistinct : DistinctKeys b.view := by
    unfold DistinctKeys
    decide +kernel
  have hpane : b.pane = .tree := by decide +kernel
  have hsearching : b.searching = false := by decide +kernel
  have hcursor : b.cursor = 1 := by decide +kernel
  obtain ⟨n, hn, hchildren⟩ : ∃ n, b.cursorNode? = some n ∧ n.hasChildren = true :=
    Option.map_eq_some_iff.1 (by decide +kernel : b.cursorNode?.map (·.hasChildren) = some true)
  obtain ⟨move, again, hmove, hagain, hturned, -, hstays, hrows, -⟩ :=
    turning_in_place b hdistinct hpane hsearching n hn hchildren ⟨.enter, false⟩ (by simp)
  have hclosed : ¬ Forest.OpensAt b.cursor n (Forest.rowsUnder b.expanded n) b.rows move.1.rows := by
    rintro ⟨before, after, hlength, hbefore, -⟩
    have hopen : b.rows[b.cursor]?.map (·.expanded) = some true := by decide +kernel
    rw [hbefore, ← hlength] at hopen
    simp at hopen
  have hcloses := hcursor ▸ hturned.resolve_left hclosed
  refine ⟨hdistinct, hpane, hsearching, by decide +kernel, n, move, again, hn, hchildren, hmove, hagain, hcloses, ?_,
    hstays, hrows⟩
  rw [press_eq_some hmove]
  decide +kernel

end Browser

end OrgConsole
