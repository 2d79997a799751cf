import OrgConsole.Proofs.Browser.Moves
import OrgConsole.Proofs.Forest.Rows
/-!
# The tree pane

Of all that a browser has, the tree pane shows the forest, what the search leaves of it, the expanded
keys and the cursor. `OutlineMove` sums up what keys do to that much: nothing, another search, a move
of the cursor, or opening and closing the node under it.
-/

namespace OrgConsole

/-- What the tree pane depends on. -/
structure Outline where
  forest : List OrgNode
  view : List OrgNode
  expanded : KeySet
  search : String
  cursor : Nat

def Browser.outline (b : Browser) : Outline :=
  ⟨b.forest, b.view, b.expanded, b.search, b.cursor⟩

namespace Outline

def rows (p : Outline) : List Forest.Row :=
  Forest.rows p.expanded p.view

/-- Search again, as the browser does. -/
def refresh (p : Outline) : Outline :=
  let view := searchForest p.forest p.search
  let expanded := if p.search.isEmpty then p.expanded else p.expanded.insertMany (Forest.parentKeys view)
  { p with
    view := view
    expanded := expanded
    cursor := min p.cursor ((Forest.rows expanded view).length - 1) }

end Outline

/-- What a key can do to the tree pane. -/
inductive OutlineMove (p : Outline) : Outline → Prop
  | kept : OutlineMove p p
  | searched (search : String) (cursor : Nat) : OutlineMove p { p with search := search, cursor := cursor }.refresh
  /-- Up the rows the cursor may go without looking, further down only onto a row. -/
  | moved (row : Nat) (h : row ≤ p.cursor ∨ row < p.rows.length) : OutlineMove p { p with cursor := row }
  /-- The node under the cursor is opened or closed. -/
  | turned (r : Forest.Row) (hr : p.rows[p.cursor]? = some r) (keys : KeySet)
      (hkeys : Forest.AgreeBut r.node.label.key p.expanded keys) : OutlineMove p { p with expanded := keys }

namespace Browser

/-! ## What each key does -/

/-- Selecting is about the other pane. -/
theorem outline_selectCursor (b : Browser) : b.selectCursor.1.outline = b.outline := by
  rcases b.selectCursor_cases with h | ⟨n, -, -, h⟩
  · rw [h]
  · rw [h, requestStaff]
    cases n.isCorp <;> rfl

theorem outlineMove_selectCursor {b : Browser} {p : Outline} (h : OutlineMove p b.outline) :
    OutlineMove p b.selectCursor.1.outline := by
  rw [outline_selectCursor]
  exact h

theorem outlineMove_goTo {b : Browser} {row : Nat} (h : row ≤ b.cursor ∨ row < b.rows.length) :
    OutlineMove b.outline (b.goTo row).1.outline :=
  outlineMove_selectCursor (.moved row h)

theorem outlineMove_moveDown (b : Browser) : OutlineMove b.outline b.moveDown.1.outline := by
  unfold moveDown
  split
  · rename_i h
    exact outlineMove_goTo (.inr h)
  · exact .kept

theorem outlineMove_moveUp (b : Browser) : OutlineMove b.outline b.moveUp.1.outline := by
  unfold moveUp
  split
  · exact outlineMove_goTo (.inl (Nat.sub_le _ _))
  · exact .kept

theorem outlineMove_turned {b : Browser} {n : OrgNode} {keys : KeySet} (hn : b.cursorNode? = some n)
    (hkeys : Forest.AgreeBut n.label.key b.expanded keys) :
    OutlineMove b.outline { b with expanded := keys }.outline := by
  obtain ⟨r, hr, rfl⟩ := Option.map_eq_some_iff.1 hn
  exact @OutlineMove.turned b.outline r hr keys hkeys

theorem outlineMove_changeExpanded {f : KeySet → String → KeySet}
    (hf : ∀ keys key, Forest.AgreeBut key keys (f keys key)) (b : Browser) :
    OutlineMove b.outline (b.changeExpanded f).outline := by
  unfold changeExpanded
  split
  · rename_i n hn
    split
    · exact outlineMove_turned hn (hf _ _)
    · exact .kept
  · exact .kept

theorem outlineMove_toggle (b : Browser) : OutlineMove b.outline b.toggle.outline :=
  outlineMove_changeExpanded (fun keys key => Forest.agreeBut_turned key keys) b

theorem outlineMove_expand (b : Browser) : OutlineMove b.outline b.expand.outline :=
  outlineMove_changeExpanded (fun keys key => Forest.agreeBut_insert key keys) b

/-- The parent's row is looked for above the cursor. -/
theorem parentRow?_le {b : Browser} {level row : Nat} (h : b.parentRow? level = some row) : row ≤ b.cursor := by
  unfold parentRow? at h
  split at h
  · cases h
  · obtain ⟨i, -, rfl⟩ := Option.map_eq_some_iff.1 h
    rw [List.length_reverse, List.length_take]
    omega

theorem outlineMove_collapseOrParent (b : Browser) : OutlineMove b.outline b.collapseOrParent.1.outline := by
  unfold collapseOrParent
  split
  · exact .kept
  · rename_i n hn
    split
    · exact outlineMove_turned hn (Forest.agreeBut_erase _ _)
    · split
      · rename_i row hrow
        exact outlineMove_goTo (.inl (parentRow?_le hrow))
      · exact .kept

theorem outlineMove_pressSearching (key : Key) (b : Browser) :
    OutlineMove b.outline (b.pressSearching key).1.outline := by
  unfold pressSearching
  split
  · exact .searched "" b.cursor
  · exact outlineMove_selectCursor (.moved 0 (.inl (Nat.zero_le _)))
  · exact .searched _ 0
  · exact .searched _ 0
  · exact .kept

theorem outlineMove_enterDetail (b : Browser) : OutlineMove b.outline b.enterDetail.1.outline := by
  have h : b.enterDetail.1.outline = b.selectCursor.1.outline := by
    unfold enterDetail
    by_cases h : b.selectCursor.1.selected.isSome
    · simp only [h, if_true]
      rfl
    · simp only [h, Bool.false_eq_true, if_false]
  rw [h]
  exact outlineMove_selectCursor .kept

theorem outlineMove_pressTree (key : Key) (b : Browser) : OutlineMove b.outline (b.pressTree key).1.outline := by
  unfold pressTree
  split
  iterate 2 exact outlineMove_moveDown b
  iterate 2 exact outlineMove_moveUp b
  iterate 2 exact outlineMove_selectCursor (outlineMove_toggle b)
  iterate 2 exact outlineMove_expand b
  iterate 2 exact outlineMove_collapseOrParent b
  · exact outlineMove_enterDetail b
  · exact .searched "" 0
  · exact .kept
  · exact .kept

theorem outline_pressDetail (key : Key) (b : Browser) : (b.pressDetail key).outline = b.outline := by
  unfold pressDetail
  split
  iterate 4 rfl
  iterate 2
    split <;> rfl
  iterate 3 rfl

/-- A key that does not end the browser does one of the things above to the tree pane. -/
theorem outlineMove_handle (key : Key) (b : Browser) : OutlineMove b.outline (b.handle key).1.outline := by
  unfold handle
  split
  · exact outlineMove_pressSearching key b
  · split
    · exact outlineMove_pressTree key b
    · simp only [outline_pressDetail]
      exact .kept

end Browser

end OrgConsole
