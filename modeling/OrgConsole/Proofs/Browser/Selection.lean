import OrgConsole.Proofs.Browser.Cursor
/-!
# The selection follows the cursor

Whoever moves the cursor selects what it comes to, so the detail pane shows the node under the cursor. Two
things put the cursor on another node and leave the selection alone: giving up a search, after which the
cursor is at the top of another list, and an organization that comes, whose rows are others. Nothing else
does, and the next move of the cursor makes up for both.
-/

namespace OrgConsole

namespace Browser

/-- Unless a search is being typed, what is selected is under the cursor, if there are any rows and anything
is selected. -/
def InStep (b : Browser) : Prop :=
  b.searching = false → b.rows ≠ [] → b.selected ≠ none →
    ∃ n, b.cursorNode? = some n ∧ b.selected = some n.label.key

variable {b : Browser}

/-! ## Selecting -/

theorem cursorNode?_selectCursor (b : Browser) : b.selectCursor.1.cursorNode? = b.cursorNode? := by
  have houtline := b.outline_selectCursor
  have hrows : b.selectCursor.1.rows = b.rows := congrArg Outline.rows houtline
  have hcursor : b.selectCursor.1.cursor = b.cursor := congrArg Outline.cursor houtline
  rw [cursorNode?, cursorNode?, hrows, hcursor]

theorem selected_selectCursor {n : OrgNode} (hn : b.cursorNode? = some n) :
    b.selectCursor.1.selected = some n.label.key := by
  unfold selectCursor
  rw [hn]
  by_cases hselected : b.selected = some n.label.key
  · simp only [if_pos hselected]
    exact hselected
  · simp only [if_neg hselected, requestStaff]
    cases n.label.isCorp <;> rfl

theorem exists_cursorNode (h : b.outline.InOrder) (hrows : b.rows ≠ []) : ∃ n, b.cursorNode? = some n := by
  rcases h.cursor with hin | ⟨-, hnone⟩
  · have hin : b.cursor < b.rows.length := hin
    exact ⟨_, by rw [cursorNode?, List.getElem?_eq_getElem hin, Option.map_some]⟩
  · exact absurd hnone hrows

theorem inStep_selectCursor (h : b.outline.InOrder) : b.selectCursor.1.InStep := by
  intro _ hrows _
  have hsame : b.selectCursor.1.rows = b.rows := congrArg Outline.rows b.outline_selectCursor
  obtain ⟨n, hn⟩ := exists_cursorNode h (hsame ▸ hrows)
  exact ⟨n, b.cursorNode?_selectCursor.trans hn, selected_selectCursor hn⟩

theorem inStep_goTo (h : b.outline.InOrder) {row : Nat} (hrow : row ≤ b.cursor ∨ row < b.rows.length) :
    (b.goTo row).1.InStep :=
  inStep_selectCursor (h.step (.moved row hrow))

/-! ## What each key does -/

/-- Opening or closing the node under the cursor leaves the cursor on it. -/
theorem InStep.turned (hb : b.InStep) (h : b.outline.InOrder) {n : OrgNode} (hn : b.cursorNode? = some n)
    {keys : KeySet} (hkeys : Forest.AgreeBut n.label.key b.expanded keys) :
    { b with expanded := keys }.InStep := by
  intro hsearching _ hselected
  obtain ⟨r, hr, rfl⟩ := Option.map_eq_some_iff.1 hn
  have hrows : b.rows ≠ [] := by
    intro hnone
    rw [hnone] at hr
    cases hr
  obtain ⟨n', hn', hkey⟩ := hb hsearching hrows hselected
  obtain rfl := Option.some.inj (hn.symm.trans hn')
  exact ⟨r.node, Forest.node_rows_of_agree h.distinct_view hr hkeys, hkey⟩

theorem InStep.expand (hb : b.InStep) (h : b.outline.InOrder) : b.expand.InStep := by
  unfold Browser.expand changeExpanded
  split
  · rename_i n hn
    split
    · exact hb.turned h hn (Forest.agreeBut_insert _ _)
    · exact hb
  · exact hb

/-- What a move makes of the browser: it is in step, or it is as far in step as it was, with the cursor in its
place. -/
def Steady (b b' : Browser) : Prop :=
  b'.InStep ∨ b'.cursor = b.cursor ∧ (b.InStep → b'.InStep)

theorem Steady.refl (b : Browser) : Steady b b := .inr ⟨rfl, id⟩

theorem steady_moveDown (h : b.outline.InOrder) : Steady b b.moveDown.1 := by
  unfold moveDown
  split
  · exact .inl (inStep_goTo h (.inr ‹_›))
  · exact .refl b

theorem steady_moveUp (h : b.outline.InOrder) : Steady b b.moveUp.1 := by
  unfold moveUp
  split
  · exact .inl (inStep_goTo h (.inl (Nat.sub_le _ _)))
  · exact .refl b

theorem inStep_toggle_selectCursor (h : b.outline.InOrder) : b.toggle.selectCursor.1.InStep :=
  inStep_selectCursor (h.step b.outlineMove_toggle)

theorem steady_expand (h : b.outline.InOrder) : Steady b b.expand := by
  obtain ⟨keys, hkeys⟩ := changeExpanded_eq .insert b
  refine .inr ⟨?_, fun hb => hb.expand h⟩
  rw [expand, hkeys]

theorem steady_collapseOrParent (h : b.outline.InOrder) : Steady b b.collapseOrParent.1 := by
  unfold collapseOrParent
  split
  · exact .refl b
  · rename_i n hn
    split
    · exact .inr ⟨rfl, fun hb => hb.turned h hn (Forest.agreeBut_erase _ _)⟩
    · split
      · rename_i row hrow
        exact .inl (inStep_goTo h (.inl (parentRow?_le hrow)))
      · exact .refl b

theorem inStep_enterDetail (h : b.outline.InOrder) : b.enterDetail.1.InStep := by
  have hselected := inStep_selectCursor h
  unfold enterDetail
  by_cases hsome : b.selectCursor.1.selected.isSome
  · simp only [hsome, if_true]
    exact hselected
  · simp only [hsome, Bool.false_eq_true, if_false]
    exact hselected

theorem inStep_of_searching (h : b.searching = true) : b.InStep := by
  intro hsearching
  rw [h] at hsearching
  cases hsearching

theorem steady_pressTree (h : b.outline.InOrder) (key : Key) : Steady b (b.pressTree key).1 := by
  unfold pressTree
  split
  iterate 2 exact steady_moveDown h
  iterate 2 exact steady_moveUp h
  iterate 2 exact .inl (inStep_toggle_selectCursor h)
  iterate 2 exact steady_expand h
  iterate 2 exact steady_collapseOrParent h
  · exact .inl (inStep_enterDetail h)
  · exact .inl (inStep_of_searching rfl)
  · exact .refl b
  · exact .refl b

theorem steady_pressDetail (key : Key) : Steady b (b.pressDetail key) := by
  unfold pressDetail
  split
  iterate 4 exact .inr ⟨rfl, id⟩
  iterate 2
    split
    · exact .inr ⟨rfl, id⟩
    · exact .refl b
  iterate 2 exact .inr ⟨rfl, id⟩
  · exact .refl b

theorem steady_pressSearching (h : b.outline.InOrder) (hsearching : b.searching = true) {key : Key}
    (hkey : key ≠ .escape) : Steady b (b.pressSearching key).1 := by
  unfold pressSearching
  split
  · exact absurd rfl hkey
  · exact .inl (inStep_goTo (b := { b with searching := false }) h (.inl (Nat.zero_le _)))
  · exact .inl (inStep_of_searching hsearching)
  · exact .inl (inStep_of_searching hsearching)
  · exact .refl b

/-- Every key but the one that gives up a search. -/
theorem steady_handle (h : b.outline.InOrder) {key : Key} (hkey : ¬ (b.searching = true ∧ key = .escape)) :
    Steady b (b.handle key).1 := by
  unfold handle
  split
  · rename_i hsearching
    exact steady_pressSearching h hsearching fun he => hkey ⟨hsearching, he⟩
  · split
    · exact steady_pressTree h key
    · exact steady_pressDetail key

theorem inStep_of_selecting (h : b.outline.InOrder) {key : Key} (hkey : key ∈ [Key.enter, .char ' ', .tab])
    (hpane : b.pane = .tree) : (b.handle key).1.InStep := by
  unfold handle
  split
  · rename_i hsearching
    simp only [List.mem_cons, List.not_mem_nil, or_false] at hkey
    rcases hkey with rfl | rfl | rfl
    · exact inStep_goTo (b := { b with searching := false }) h (.inl (Nat.zero_le _))
    · exact inStep_of_searching hsearching
    · exact inStep_of_searching hsearching
  · simp only [hpane]
    simp only [List.mem_cons, List.not_mem_nil, or_false] at hkey
    rcases hkey with rfl | rfl | rfl
    · exact inStep_toggle_selectCursor h
    · exact inStep_toggle_selectCursor h
    · exact inStep_enterDetail h

/-! ## What replies do -/

theorem InStep.receive (hb : b.InStep) {r : Reply}
    (hr : ∀ ticket forest, r = .tree ticket (.ok forest) → b.isStale r = true) : (b.receive r).InStep := by
  unfold Browser.receive
  split
  · exact hb
  · rename_i hcounts
    match r with
    | .tree ticket (.ok forest) => exact absurd (hr ticket forest rfl) hcounts
    | .tree _ (.error _) | .staff _ _ (.ok _) | .staff _ _ (.error _) => exact hb

end Browser

/-! ## Runs -/

namespace LoggedBrowser

/-- What puts the cursor on another node and does not select that: a search is given up, or an organization
comes that counts. -/
def Diverts (s : LoggedBrowser) : Occurrence → Prop
  | .press k => s.browser.searching = true ∧ k.key = .escape
  | .forest ticket (.ok _) => s.browser.treeRequests.isCurrent ticket = true
  | _ => False

theorem inStep_after {s : LoggedBrowser} (h : s.browser.outline.InOrder) (hs : s.browser.InStep) {o : Occurrence}
    (ho : ¬ s.Diverts o) : (s.after o).browser.InStep := by
  cases o with
  | load => exact hs
  | press k =>
    rcases s.browser.press_cases k with hnone | hsome
    · simp only [after, hnone]
      exact hs
    · simp only [after, hsome]
      exact (Browser.steady_handle h ho).elim id fun hkept => hkept.2 hs
  | forest ticket result =>
    refine hs.receive fun ticket' forest hreply => ?_
    cases result with
    | error why => cases hreply
    | ok sent =>
      cases hreply
      exact Bool.not_eq_true' _ ▸ Bool.eq_false_iff.2 ho
  | staff place answer =>
    rcases s.after_staff place answer with hsame | ⟨ticket, departmentId, -, hafter⟩
    · rw [hsame]
      exact hs
    · rw [hafter]
      exact hs.receive fun ticket' forest hreply => by cases hreply

/-- The run came out of step when a search was given up or an organization came, and has not been in step
since. -/
def DivertedIn (os : List Occurrence) : Prop :=
  ∃ before o since, os = before ++ o :: since ∧ (run before).Diverts o ∧
    ∀ part, part <+: since → ¬ (run (before ++ o :: part)).browser.InStep

theorem DivertedIn.concat {os : List Occurrence} (h : DivertedIn os) {o : Occurrence}
    (ho : ¬ (run (os ++ [o])).browser.InStep) : DivertedIn (os ++ [o]) :=
  HoldsSince.concat (P := fun b => ¬ b.InStep) h ho

theorem DivertedIn.not_inStep {os : List Occurrence} (h : DivertedIn os) : ¬ (run os).browser.InStep :=
  HoldsSince.now (P := fun b => ¬ b.InStep) h

theorem inStep_or_divertedIn (os : List Occurrence)
    (hdistinct : ∀ ticket sent, .forest ticket (.ok sent) ∈ os → DistinctKeys (buildForest sent)) :
    (run os).browser.InStep ∨ DivertedIn os := by
  induction os using List.reverseRecOn with
  | nil => exact .inl fun _ _ hselected => absurd rfl hselected
  | append_singleton os o ih =>
    have hbefore : ∀ ticket sent, .forest ticket (.ok sent) ∈ os → DistinctKeys (buildForest sent) :=
      fun ticket sent hmem => hdistinct ticket sent (List.mem_append_left _ hmem)
    by_cases hnow : (run (os ++ [o])).browser.InStep
    · exact .inl hnow
    refine .inr ?_
    rcases ih hbefore with hstep | hdiverted
    · -- It was in step until just now, so what happened last is the cause.
      refine HoldsSince.just (P := fun b => ¬ b.InStep) ?_ hnow
      by_contra hcause
      rw [run_concat] at hnow
      exact hnow (inStep_after (reachable_run hbefore).inOrder hstep hcause)
    · exact hdiverted.concat hnow

/-- In every run in which no key repeats in an organization, what is selected is under the cursor, unless a search
was given up or an organization came with which the two came apart and they did not meet since. They meet again
with the next key that selects or moves the cursor. -/
theorem selection_under_cursor (os : List Occurrence)
    (hdistinct : ∀ ticket sent, .forest ticket (.ok sent) ∈ os → DistinctKeys (buildForest sent)) :
    ((run os).browser.InStep ↔ ¬ DivertedIn os) ∧
      (∀ key ∈ [Key.enter, .char ' ', .tab], (run os).browser.pane = .tree → ((run os).browser.handle key).1.InStep) ∧
      ∀ key, (run os).browser.searching = false → ((run os).browser.handle key).1.cursor ≠ (run os).browser.cursor →
        ((run os).browser.handle key).1.InStep := by
  have horder := (reachable_run hdistinct).inOrder
  refine ⟨⟨fun hstep hdiverted => hdiverted.not_inStep hstep, (inStep_or_divertedIn os hdistinct).resolve_right⟩,
    fun key hkey hpane => Browser.inStep_of_selecting horder hkey hpane, fun key hsearching hmoved => ?_⟩
  have hkept : ¬ ((run os).browser.searching = true ∧ key = .escape) := by
    rw [hsearching]
    exact fun h => Bool.false_ne_true h.1
  exact (Browser.steady_handle horder hkept).resolve_right fun hsame => hmoved hsame.1

/-- The cursor was on the department below the corporation when a search began, which finds the corporation. -/
theorem selection_under_cursor_after_search :
    let org := [(RawNode.corp "c1" "Acme").withChildren [.dept "d1" "Eng"]]
    let os : List Occurrence :=
      [.load, .forest ⟨1⟩ (.ok org), .press ⟨.char 'j', false⟩, .press ⟨.char '/', false⟩, .press ⟨.char 'm', false⟩]
    let entered := ((run os).browser.handle .enter).1
    (∀ ticket sent, .forest ticket (.ok sent) ∈ os → DistinctKeys (buildForest sent)) ∧
      (run os).browser.selected = some "dept_d1" ∧ ¬ DivertedIn os ∧
      entered.InStep ∧ entered.selected = some "org_c1" ∧ entered.searching = false := by
  intro org os entered
  have hdistinct : ∀ ticket sent, .forest ticket (.ok sent) ∈ os → DistinctKeys (buildForest sent) := by
    intro ticket sent hmem
    simp only [os, List.mem_cons, List.not_mem_nil, reduceCtorEq, or_false, false_or, Occurrence.forest.injEq,
      Except.ok.injEq] at hmem
    obtain ⟨-, rfl⟩ := hmem
    unfold DistinctKeys
    decide
  obtain ⟨hiff, hselects, -⟩ := selection_under_cursor os hdistinct
  exact ⟨hdistinct, by decide +kernel, hiff.1 (Browser.inStep_of_searching (by decide +kernel)),
    hselects .enter (by simp) (by decide +kernel), by decide +kernel, by decide +kernel⟩

/-- A search that is given up leaves the cursor on the corporation, and an organization that comes has another
department in the row of the cursor; in both the department that the cursor was on stays selected. -/
theorem selection_left_behind :
    let org (department : String) := [(RawNode.corp "c1" "Acme").withChildren [.dept department "Eng"]]
    let start : List Occurrence := [.load, .forest ⟨1⟩ (.ok (org "d1")), .press ⟨.char 'j', false⟩]
    let searched := (run (start ++ [.press ⟨.char '/', false⟩, .press ⟨.escape, false⟩])).browser
    let reloaded := (run (start ++ [.press ⟨.char 'r', false⟩, .forest ⟨2⟩ (.ok (org "d2"))])).browser
    DistinctKeys (buildForest (org "d1")) ∧ DistinctKeys (buildForest (org "d2")) ∧
      searched.pane = .tree ∧ searched.searching = false ∧ searched.rows.length = 2 ∧
      searched.selected = some "dept_d1" ∧ searched.cursorNode?.map (·.label.key) = some "org_c1" ∧
      reloaded.pane = .tree ∧ reloaded.searching = false ∧ reloaded.rows.length = 2 ∧
      reloaded.selected = some "dept_d1" ∧ reloaded.cursorNode?.map (·.label.key) = some "dept_d2" := by
  intro org start searched reloaded
  unfold DistinctKeys
  refine ⟨by decide, by decide, ?_⟩
  decide +kernel

end LoggedBrowser

end OrgConsole
