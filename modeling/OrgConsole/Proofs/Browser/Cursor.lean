import OrgConsole.Proofs.Browser.Reachable
import OrgConsole.Proofs.Browser.Outline
/-!
# The cursor stays on a row

Only a search puts the cursor back among the rows. Opening and closing nodes and moving about do
without, because what they do leaves the cursor's own row in place: closing a node takes away rows
below it and none above, as long as no other node has its key.
-/

namespace OrgConsole

/-- What the tree pane is like at all times: the view is what the search leaves of the forest, and the
cursor is on a row, or at the top if there are none. -/
structure Outline.InOrder (p : Outline) : Prop where
  distinct : DistinctKeys p.forest
  view : p.view = searchForest p.forest p.search
  cursor : p.cursor < p.rows.length ∨ p.cursor = 0 ∧ p.rows = []

theorem Outline.inOrder_refresh {p : Outline} (h : DistinctKeys p.forest) : p.refresh.InOrder := by
  refine ⟨h, rfl, ?_⟩
  have hcursor : p.refresh.cursor = min p.cursor (p.refresh.rows.length - 1) := rfl
  by_cases hrows : p.refresh.rows = []
  · refine .inr ⟨?_, hrows⟩
    rw [hcursor, hrows]
    exact Nat.min_zero _
  · have hpos := List.length_pos_iff.2 hrows
    refine .inl ?_
    omega

theorem Outline.InOrder.distinct_view {p : Outline} (h : p.InOrder) : DistinctKeys p.view :=
  h.view ▸ h.distinct.searchForest p.search

/-- Whatever a key does leaves the tree pane in order. -/
theorem Outline.InOrder.step {p p' : Outline} (h : p.InOrder) (hmove : OutlineMove p p') : p'.InOrder := by
  cases hmove with
  | kept => exact h
  | searched search cursor => exact inOrder_refresh h.distinct
  | moved row hrow =>
    refine ⟨h.distinct, h.view, ?_⟩
    rcases h.cursor with hin | ⟨hzero, hnone⟩
    · exact .inl (hrow.elim (fun hle => Nat.lt_of_le_of_lt hle hin) id)
    · rw [hzero, hnone] at hrow
      exact .inr ⟨by simpa using hrow, hnone⟩
  | turned r hr keys hkeys =>
    -- Rows may vanish, but only such as stand below the cursor's own.
    exact ⟨h.distinct, h.view, .inl (Forest.length_rows_gt h.distinct_view hr hkeys)⟩

/-! ## Reachable browsers -/

namespace Browser

theorem outline_receive (b : Browser) (r : Reply) :
    (b.receive r).outline = b.outline ∨
      ∃ ticket forest keys, r = .tree ticket (.ok forest) ∧ b.isStale r = false ∧
        (b.receive r).outline = { b.outline with forest := forest, expanded := keys }.refresh := by
  unfold receive
  cases hstale : b.isStale r with
  | true => exact .inl rfl
  | false =>
    match r with
    | .tree ticket (.ok forest) => exact .inr ⟨ticket, forest, _, rfl, rfl, rfl⟩
    | .tree _ (.error _) | .staff _ _ (.ok _) | .staff _ _ (.error _) => exact .inl rfl

/-- What is true of the tree pane at the start, and stays so whatever a key does and whatever is shown, is true at
all times. -/
theorem Reachable.outline_induction {P : List OrgNode → Prop} {I : Outline → Prop} (hnew : I Browser.new.outline)
    (hmove : ∀ {p p' : Outline}, I p → OutlineMove p p' → I p')
    (hshow : ∀ {p : Outline} {forest : List OrgNode} (keys : KeySet), I p → P forest →
      I { p with forest := forest, expanded := keys }.refresh)
    {b : Browser} (h : Reachable P b) : I b.outline := by
  induction h with
  | new => exact hnew
  | load _ ih => exact ih
  | press k _ hpress ih =>
    obtain rfl := press_eq_some hpress
    exact hmove ih (outlineMove_handle k.key _)
  | @receive b r _ hshown ih =>
    rcases b.outline_receive r with hsame | ⟨ticket, forest, keys, hreply, hcounts, hrefresh⟩
    · rw [hsame]
      exact ih
    · rw [hrefresh]
      exact hshow keys ih (hshown ticket forest hreply hcounts)

theorem Reachable.inOrder {b : Browser} (h : Reachable DistinctKeys b) : b.outline.InOrder := by
  refine h.outline_induction ⟨List.nodup_nil, rfl, .inr ⟨rfl, rfl⟩⟩ (fun hp hmove => hp.step hmove) ?_
  -- A search follows, whatever the cursor was on before.
  exact fun _ _ hforest => Outline.inOrder_refresh hforest

/-- In every browser that can come about, as long as no organization is shown in which a key repeats,
the view is what the search leaves of the forest, and the cursor is on a row, or at the top if there
are none. So there is a node under the cursor whenever anything is in sight. -/
theorem cursor_on_row (b : Browser) (h : Reachable DistinctKeys b) :
    b.view = searchForest b.forest b.search ∧
      (b.cursor < b.rows.length ∨ b.cursor = 0 ∧ b.rows = []) ∧
      (b.cursorNode? = none → b.rows = []) := by
  obtain ⟨-, hview, hcursor⟩ := h.inOrder
  refine ⟨hview, hcursor, fun hnone => ?_⟩
  rcases hcursor with hin | ⟨-, hrows⟩
  · unfold cursorNode? at hnone
    rw [Option.map_eq_none_iff, List.getElem?_eq_none_iff] at hnone
    exact absurd hin (Nat.not_lt.2 hnone)
  · exact hrows

/-- A search opens everything down to what it found; from there the cursor goes up one row, and that
row is closed. -/
theorem cursor_on_row_after_closing :
    let eng := (RawNode.dept "d1" "Eng").withChildren [.dept "d2" "Platform"]
    let forest := buildForest [(RawNode.corp "c1" "Acme").withChildren [eng, .dept "d3" "Sales"]]
    let loaded := new.requestTree.1.receive (.tree ⟨1⟩ (.ok forest))
    let keys : List Key := [.char '/', .char 'P', .enter, .down, .down, .left, .left]
    let b := keys.foldl (fun b key => (b.handle key).1) loaded
    Reachable DistinctKeys b ∧ b.view = searchForest b.forest b.search ∧
      (b.cursor < b.rows.length ∨ b.cursor = 0 ∧ b.rows = []) ∧ (b.cursorNode? = none → b.rows = []) ∧
      b.cursor = 1 ∧ b.rows.map (·.node.label.title) = ["Acme", "Eng"] := by
  intro eng forest loaded keys b
  have hloaded : Reachable DistinctKeys loaded := by
    refine .receive _ (.load .new) ?_
    rintro ticket _ ⟨rfl, rfl⟩ -
    unfold DistinctKeys
    decide
  have h : Reachable DistinctKeys b := hloaded.handleAll (by decide)
  obtain ⟨hview, hcursor, hnone⟩ := cursor_on_row b h
  exact ⟨h, hview, hcursor, hnone, by decide +kernel, by decide +kernel⟩

end Browser

end OrgConsole
