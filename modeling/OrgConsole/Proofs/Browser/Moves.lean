import OrgConsole.Browser.Keys
import OrgConsole.Proofs.Forest.Listing
/-!
# What a key can do

`Handled` sums up the keys: whatever key is pressed, the browser does one of seven things. Statements
about all keys are case analyses over those.
-/

namespace OrgConsole.Browser

/-! ## The cursor -/

theorem mem_labels_view {b : Browser} {n : OrgNode} (h : b.cursorNode? = some n) :
    n.label ∈ Tree.labels b.view := by
  obtain ⟨row, hrow, rfl⟩ := Option.map_eq_some_iff.1 h
  have hmem : row ∈ b.rows := List.mem_of_getElem? hrow
  exact (Forest.labels_rows_sublist b.expanded b.view).subset (List.mem_map_of_mem hmem)

/-- Selecting under the cursor does nothing, or turns to another node in sight. -/
theorem selectCursor_cases (b : Browser) :
    b.selectCursor = (b, []) ∨
      ∃ n ∈ Tree.labels b.view, b.selected ≠ some n.key ∧
        b.selectCursor = { b with selected := some n.key }.requestStaff n := by
  unfold selectCursor
  cases hn : b.cursorNode? with
  | none => exact .inl rfl
  | some n =>
    by_cases hs : b.selected = some n.label.key
    · exact .inl (if_pos hs)
    · exact .inr ⟨n.label, mem_labels_view hn, hs, if_neg hs⟩

/-! ## One step -/

/-- What a key can do to the browser. -/
inductive Handled (b : Browser) : Browser × List Fetch → Prop
  | idle : Handled b (b, [])
  /-- Another search, shown at once. -/
  | searched (search : String) (searching : Bool) (cursor : Nat) :
      Handled b ({ b with search := search, searching := searching, cursor := cursor }.refresh, [])
  /-- The node under the cursor is selected, after the cursor or the expanded keys changed. -/
  | selected (searching : Bool) (keys : KeySet) (row : Nat) :
      Handled b ({ b with searching := searching, expanded := keys, cursor := row }.selectCursor)
  | entered (pane : Pane) : Handled b ({ b.selectCursor.1 with pane := pane }, b.selectCursor.2)
  | expanded (keys : KeySet) : Handled b ({ b with expanded := keys }, [])
  | left : Handled b ({ b with pane := .tree }, [])
  | scrolled (rows : Nat) (h : rows ≤ b.scroll ∨ rows < b.staff.length) : Handled b ({ b with scroll := rows }, [])
  | loading : Handled b b.requestTree

theorem changeExpanded_eq (f : KeySet → String → KeySet) (b : Browser) :
    ∃ keys, b.changeExpanded f = { b with expanded := keys } := by
  unfold changeExpanded
  split
  · split
    · exact ⟨_, rfl⟩
    · exact ⟨b.expanded, rfl⟩
  · exact ⟨b.expanded, rfl⟩

theorem handled_goTo (row : Nat) (b : Browser) : Handled b (b.goTo row) :=
  .selected b.searching b.expanded row

theorem handled_toggle (b : Browser) : Handled b b.toggle.selectCursor := by
  obtain ⟨keys, hkeys⟩ := changeExpanded_eq
    (fun keys key => if keys.contains key then keys.erase key else keys.insert key) b
  rw [toggle, hkeys]
  exact .selected b.searching keys b.cursor

theorem handled_expand (b : Browser) : Handled b (b.expand, []) := by
  obtain ⟨keys, hkeys⟩ := changeExpanded_eq .insert b
  rw [expand, hkeys]
  exact .expanded keys

theorem handled_collapseOrParent (b : Browser) : Handled b b.collapseOrParent := by
  unfold collapseOrParent
  split
  · exact .idle
  · split
    · exact .expanded _
    · split
      · exact handled_goTo _ b
      · exact .idle

theorem handled_pressSearching (key : Key) (b : Browser) : Handled b (b.pressSearching key) := by
  unfold pressSearching
  split
  · exact .searched "" false b.cursor
  · exact .selected false b.expanded 0
  · exact .searched _ b.searching 0
  · exact .searched _ b.searching 0
  · exact .idle

theorem handled_moveDown (b : Browser) : Handled b b.moveDown := by
  unfold moveDown
  split
  · exact handled_goTo _ b
  · exact .idle

theorem handled_moveUp (b : Browser) : Handled b b.moveUp := by
  unfold moveUp
  split
  · exact handled_goTo _ b
  · exact .idle

theorem handled_enterDetail (b : Browser) : Handled b b.enterDetail := by
  unfold enterDetail
  by_cases h : b.selectCursor.1.selected.isSome
  · simp only [h, if_true]
    exact .entered .detail
  · simp only [h, Bool.false_eq_true, if_false]
    exact .entered b.selectCursor.1.pane

theorem handled_pressTree (key : Key) (b : Browser) : Handled b (b.pressTree key) := by
  unfold pressTree
  split
  iterate 2 exact handled_moveDown b
  iterate 2 exact handled_moveUp b
  iterate 2 exact handled_toggle b
  iterate 2 exact handled_expand b
  iterate 2 exact handled_collapseOrParent b
  · exact handled_enterDetail b
  · exact .searched "" true 0
  · exact .loading
  · exact .idle

theorem handled_pressDetail (key : Key) (b : Browser) : Handled b (b.pressDetail key, []) := by
  unfold pressDetail
  split
  iterate 4 exact .left
  iterate 2
    split
    · exact .scrolled _ (.inr ‹_›)
    · exact .idle
  iterate 2 exact .scrolled _ (.inl (Nat.sub_le _ _))
  · exact .idle

/-- A key that does not end the browser does one of the things above. -/
theorem handled_handle (key : Key) (b : Browser) : Handled b (b.handle key) := by
  unfold handle
  split
  · exact handled_pressSearching key b
  · split
    · exact handled_pressTree key b
    · exact handled_pressDetail key b

/-! ## Keys that end the browser -/

theorem press_cases (k : KeyPress) (b : Browser) : b.press k = none ∨ b.press k = some (b.handle k.key) := by
  unfold press
  split
  · exact .inl rfl
  · exact .inr rfl

theorem press_eq_some {b : Browser} {k : KeyPress} {move : Browser × List Fetch} (h : b.press k = some move) :
    move = b.handle k.key := by
  rcases b.press_cases k with hnone | hsome
  · rw [hnone] at h
    cases h
  · exact Option.some.inj (h.symm.trans hsome)

/-- In the tree pane, while no search is being typed. -/
theorem press_of_tree {b : Browser} (hpane : b.pane = .tree) (hsearching : b.searching = false) {k : KeyPress}
    (hk : k.key ∉ [Key.char 'q', .char 'c']) : b.press k = some (b.pressTree k.key) := by
  rw [List.mem_cons, List.mem_singleton, not_or] at hk
  have hstays : b.quits k = false := by simp [quits, hk]
  have hhandle : b.handle k.key = b.pressTree k.key := by simp [handle, hsearching, hpane]
  rw [press, if_neg (Bool.eq_false_iff.1 hstays), hhandle]

end OrgConsole.Browser
