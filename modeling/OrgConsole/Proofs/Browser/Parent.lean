import OrgConsole.Proofs.Browser.Hits
import OrgConsole.Proofs.Browser.Selection
import OrgConsole.Proofs.Forest.InSight
/-!
# Going to the parent

A browser looks for the parent of the node under the cursor by levels alone: it takes the nearest row above
whose level is one less. Where levels count ancestors, that is the row of the parent itself, even if parent
and node have keys that stand elsewhere too. Built organizations have such levels, and a search changes none.
-/

namespace OrgConsole

/-- An organization that was built from what was sent. -/
def Built (forest : List OrgNode) : Prop :=
  ∃ sent, forest = buildForest sent

theorem OutlineMove.view_eq {p p' : Outline} (hmove : OutlineMove p p')
    (h : p.view = searchForest p.forest p.search) : p'.view = searchForest p'.forest p'.search := by
  cases hmove with
  | searched search cursor => rfl
  | kept | moved | turned => exact h

namespace Browser

variable {b : Browser}

theorem Reachable.view_eq {P : List OrgNode → Prop} (h : Reachable P b) :
    b.view = searchForest b.forest b.search :=
  h.outline_induction (I := fun p => p.view = searchForest p.forest p.search) rfl
    (fun hview hmove => hmove.view_eq hview) fun _ _ _ => rfl

theorem Reachable.leveled (h : Reachable Built b) : Leveled b.view := by
  obtain ⟨sent, hsent⟩ := h.forest ⟨[], rfl⟩
  rw [h.view_eq, hsent]
  exact (leveled_buildForest sent).searchForest b.search

/-! ## Looking for the parent -/

theorem findIdx?_reverse_split {α : Type} {p : α → Bool} {before between : List α} {a : α} (ha : p a = true)
    (hbetween : ∀ a ∈ between, p a = false) :
    (before ++ a :: between).reverse.findIdx? p = some between.length := by
  have hnone : between.reverse.findIdx? p = none := by simpa using hbetween
  rw [List.reverse_append, List.reverse_cons, List.append_assoc, List.findIdx?_append, hnone]
  simp [List.findIdx?_cons, ha]

/-- The row that is found is that of the address above. -/
theorem parentRow?_eq (h : Leveled b.view) {up : List Nat} {k : Nat} (hup : up ≠ [])
    (hrow : (Forest.rowAddresses b.expanded b.view)[b.cursor]? = some (up ++ [k])) :
    ∃ row, b.parentRow? up.length = some row ∧ (Forest.rowAddresses b.expanded b.view)[row]? = some up := by
  obtain ⟨before, between, htake, hdeeper⟩ := Forest.take_rowAddresses_below hup hrow
  have hlengths : (b.rows.take b.cursor).map (·.node.label.level + 1) = (before ++ up :: between).map List.length := by
    rw [List.map_take, rows, h.level_rows, ← List.map_take, htake]
  have hfound : (b.rows.take b.cursor).reverse.findIdx? (fun r => r.node.label.level + 1 = up.length) =
      some between.length := by
    have hsplit : ((before ++ up :: between).map List.length).reverse.findIdx? (· = up.length) =
        some between.length := by
      rw [List.map_append, List.map_cons, ← between.length_map (f := List.length)]
      refine findIdx?_reverse_split (decide_eq_true rfl) fun length hlength => ?_
      obtain ⟨address, haddress, rfl⟩ := List.mem_map.1 hlength
      exact decide_eq_false (Nat.ne_of_gt (hdeeper address haddress))
    rw [← hlengths, ← List.map_reverse, List.findIdx?_map] at hsplit
    exact hsplit
  have hlength : (b.rows.take b.cursor).length = before.length + (between.length + 1) := by
    simpa using congrArg List.length hlengths
  refine ⟨before.length, ?_, ?_⟩
  · have hlevel : up.length ≠ 0 := fun hzero => hup (List.length_eq_zero_iff.1 hzero)
    rw [parentRow?, if_neg hlevel]
    simp only [hfound, Option.map_some, List.length_reverse, hlength]
    congr 1
    omega
  · have hbefore : ((Forest.rowAddresses b.expanded b.view).take b.cursor)[before.length]? = some up := by
      rw [htake, List.getElem?_append_right (Nat.le_refl _), Nat.sub_self, List.getElem?_cons_zero]
    rw [List.getElem?_take] at hbefore
    split at hbefore
    · exact hbefore
    · cases hbefore

/-! ## Rows and their addresses -/

/-- In a row stands the node at an address; the lineage is that node and those above it. -/
structure Stands (b : Browser) (row : Nat) (address : List Nat) (lineage : List OrgNode) : Prop where
  inSight : (Forest.rowAddresses b.expanded b.view)[row]? = some address
  lineage : Tree.lineage? b.view address = some lineage

theorem exists_stands {n : OrgNode} (hn : b.cursorNode? = some n) :
    ∃ address above, b.Stands b.cursor address (n :: above) := by
  obtain ⟨r, hr, rfl⟩ := Option.map_eq_some_iff.1 hn
  obtain ⟨address, above, haddress, hlineage⟩ := Forest.exists_address hr
  exact ⟨address, above, haddress, hlineage⟩

theorem Stands.cursorNode? {address : List Nat} {n : OrgNode} {above : List OrgNode}
    (h : b.Stands b.cursor address (n :: above)) : b.cursorNode? = some n := by
  have hrow := congrArg (·[b.cursor]?) (Forest.map_some_rows b.expanded b.view)
  simp only [List.getElem?_map, h.inSight, Option.map_some, Forest.rowAt?, h.lineage] at hrow
  obtain ⟨r, hr, hnode⟩ := Option.map_eq_some_iff.1 hrow
  exact Option.map_eq_some_iff.2 ⟨r, hr, congrArg Forest.Row.node (Option.some.inj hnode)⟩

/-- The node above stands in a row of its own, and that is the one that is found. -/
theorem Stands.parentRow? (hlevels : Leveled b.view) {address : List Nat} {n parent : OrgNode} {rest : List OrgNode}
    (h : b.Stands b.cursor address (n :: parent :: rest)) :
    ∃ row, b.parentRow? n.label.level = some row ∧ b.Stands row address.dropLast (parent :: rest) := by
  cases address using List.reverseRecOn with
  | nil => cases h.lineage
  | append_singleton up k =>
    have hlineage := Tree.lineage?_of_concat h.lineage
    have hlength := Tree.length_lineage? hlineage
    have hlevel : n.label.level = up.length := (hlevels _ _ _ h.lineage).trans hlength
    have hup : up ≠ [] := by
      rintro rfl
      cases hlength
    obtain ⟨row, hfound, hrow⟩ := parentRow?_eq hlevels hup h.inSight
    refine ⟨row, hlevel ▸ hfound, ?_⟩
    rw [List.dropLast_concat]
    exact ⟨hrow, hlineage⟩

/-! ## Going there -/

theorem collapseOrParent_root (hlevels : Leveled b.view) {address : List Nat} {n : OrgNode}
    (h : b.Stands b.cursor address [n]) (hclosed : b.expanded.contains n.label.key = false) :
    b.collapseOrParent = (b, []) := by
  have hlevel : n.label.level = 0 := hlevels _ _ _ h.lineage
  have hnone : b.parentRow? n.label.level = none := by rw [parentRow?, if_pos hlevel]
  simp only [collapseOrParent, h.cursorNode?, hclosed, Bool.false_eq_true, if_false, hnone]

theorem collapseOrParent_below {n : OrgNode} (hn : b.cursorNode? = some n)
    (hclosed : b.expanded.contains n.label.key = false) {row : Nat} (hrow : b.parentRow? n.label.level = some row) :
    b.collapseOrParent = b.goTo row := by
  simp only [collapseOrParent, hn, hclosed, Bool.false_eq_true, if_false, hrow]

/-- Where the cursor goes, the node is selected and the rows stay. -/
theorem goTo_stands {row : Nat} {address : List Nat} {n : OrgNode} {above : List OrgNode}
    (h : b.Stands row address (n :: above)) :
    (b.goTo row).1.Stands (b.goTo row).1.cursor address (n :: above) ∧ (b.goTo row).1.cursorNode? = some n ∧
      (b.goTo row).1.selected = some n.label.key ∧ (b.goTo row).1.rows = b.rows := by
  let moved : Browser := { b with cursor := row }
  have hmoved : moved.Stands moved.cursor address (n :: above) := ⟨h.inSight, h.lineage⟩
  have houtline : (b.goTo row).1.outline = moved.outline := moved.outline_selectCursor
  have hstands : (b.goTo row).1.Stands (b.goTo row).1.cursor address (n :: above) := by
    have hview : (b.goTo row).1.view = b.view := congrArg Outline.view houtline
    have hexpanded : (b.goTo row).1.expanded = b.expanded := congrArg Outline.expanded houtline
    have hcursor : (b.goTo row).1.cursor = row := congrArg Outline.cursor houtline
    constructor
    · rw [hview, hexpanded, hcursor]
      exact h.inSight
    · rw [hview]
      exact h.lineage
  exact ⟨hstands, hstands.cursorNode?, selected_selectCursor hmoved.cursorNode?, congrArg Outline.rows houtline⟩

theorem press_left (hpane : b.pane = .tree) (hsearching : b.searching = false) {k : KeyPress}
    (hk : k.key ∈ [Key.left, .char 'h']) : b.press k = some b.collapseOrParent := by
  have hstays : ∀ key ∈ [Key.left, .char 'h'], key ∉ [Key.char 'q', .char 'c'] := by decide
  have hleft : ∀ key ∈ [Key.left, .char 'h'], b.pressTree key = b.collapseOrParent := by simp [pressTree]
  rw [press_of_tree hpane hsearching (hstays _ hk), hleft _ hk]

/-- In every browser that can come about, as long as only built organizations are shown, rows above the cursor are
only looked at where there are as many as the cursor says. And a key that closes nodes, where the node under the
cursor is closed already, goes to the row of that node's own parent and selects it; from a root it goes nowhere.
Keys may repeat. -/
theorem left_goes_to_parent (b : Browser) (h : Reachable Built b) :
    (b.cursorNode? = none ∧ b.collapseOrParent = (b, []) ∨ (b.rows.take b.cursor).length = b.cursor) ∧
    ∀ n, b.pane = .tree → b.searching = false → b.cursorNode? = some n → b.expanded.contains n.label.key = false →
      ∃ address above, b.Stands b.cursor address (n :: above) ∧
        ∀ k : KeyPress, k.key ∈ [Key.left, .char 'h'] → ∃ move, b.press k = some move ∧
          (above = [] → move = (b, [])) ∧
          ∀ parent rest, above = parent :: rest →
            move.1.Stands move.1.cursor address.dropLast (parent :: rest) ∧
              move.1.cursorNode? = some parent ∧ move.1.selected = some parent.label.key ∧ move.1.rows = b.rows := by
  constructor
  · cases hn : b.cursorNode? with
    | none => exact .inl ⟨rfl, by simp only [collapseOrParent, hn]⟩
    | some n =>
      obtain ⟨r, hr, -⟩ := Option.map_eq_some_iff.1 hn
      have hin : b.cursor < b.rows.length := (List.getElem?_eq_some_iff.1 hr).1
      exact .inr (List.length_take_of_le (Nat.le_of_lt hin))
  · intro n hpane hsearching hn hclosed
    obtain ⟨address, above, hstands⟩ := exists_stands hn
    refine ⟨address, above, hstands, fun k hk => ⟨_, press_left hpane hsearching hk, ?_, ?_⟩⟩
    · rintro rfl
      exact collapseOrParent_root h.leveled hstands hclosed
    · rintro parent rest rfl
      obtain ⟨row, hrow, hparent⟩ := hstands.parentRow? h.leveled
      rw [collapseOrParent_below hn hclosed hrow]
      exact goTo_stands hparent

/-- Two corporations share the keys of what is below them, and the cursor is on the last row. -/
theorem left_goes_to_parent_among_repeated_keys :
    let corp (id name : String) :=
      (RawNode.corp id name).withChildren [(RawNode.dept "d1" "Eng").withChildren [.dept "d2" "Data"]]
    let forest := buildForest [corp "c1" "Acme", corp "c2" "Apex"]
    let loaded := new.requestTree.1.receive (.tree ⟨1⟩ (.ok forest))
    let keys : List Key := [.down, .right, .down, .down, .down, .down]
    let b := keys.foldl (fun b key => (b.handle key).1) loaded
    Reachable Built b ∧
      b.rows.map (·.node.label.key) = ["org_c1", "dept_d1", "dept_d2", "org_c2", "dept_d1", "dept_d2"] ∧
      ∃ n move parent rest, b.Stands 5 [1, 0, 0] (n :: parent :: rest) ∧ b.cursorNode? = some n ∧
        b.expanded.contains n.label.key = false ∧ b.press ⟨.left, false⟩ = some move ∧
        move.1.Stands 4 [1, 0] (parent :: rest) ∧ move.1.selected = some "dept_d1" := by
  intro corp forest loaded keys b
  have hloaded : Reachable Built loaded := by
    refine .receive _ (.load .new) ?_
    rintro ticket _ ⟨rfl, rfl⟩ -
    exact ⟨_, rfl⟩
  have h : Reachable Built b := hloaded.handleAll (by decide)
  obtain ⟨n, hn, hkey⟩ : ∃ n, b.cursorNode? = some n ∧ n.label.key = "dept_d2" :=
    Option.map_eq_some_iff.1 (by decide +kernel : b.cursorNode?.map (·.label.key) = some "dept_d2")
  have hclosed : b.expanded.contains n.label.key = false := by
    rw [hkey]
    decide +kernel
  obtain ⟨address, above, hstands, hpressed⟩ :=
    (left_goes_to_parent b h).2 n (by decide +kernel) (by decide +kernel) hn hclosed
  have hcursor : b.cursor = 5 := by decide +kernel
  obtain rfl : address = [1, 0, 0] := Option.some.inj (hstands.inSight.symm.trans (by decide +kernel))
  obtain ⟨parent, rest, rfl⟩ :=
    List.exists_of_length_succ above (Nat.succ.inj (Tree.length_lineage? hstands.lineage))
  obtain ⟨move, hmove, -, hparent⟩ := hpressed ⟨.left, false⟩ (by simp)
  obtain ⟨hmoved, -⟩ := hparent parent rest rfl
  obtain rfl := press_eq_some hmove
  have hrow : (b.handle .left).1.cursor = 4 ∧ (b.handle .left).1.selected = some "dept_d1" := by decide +kernel
  rw [hcursor] at hstands
  rw [hrow.1] at hmoved
  exact ⟨h, by decide +kernel, n, _, parent, rest, hstands, hn, hclosed, hmove, hmoved, hrow.2⟩

end Browser

end OrgConsole
