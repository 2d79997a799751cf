import OrgConsole.Proofs.Browser.Hits
/-!
# What stays expanded

An organization that comes with nothing expanded has its roots expanded, as one that comes first does. So
what is expanded survives every later one, but for one case: the user has closed the last node that was open.
The browser then takes the next organization for the first.
-/

namespace OrgConsole

/-! ## Nodes with children -/

/-- Some node of a forest has children. -/
def Tree.Branches {α : Type} (forest : List (Tree α)) : Prop :=
  ∃ n ∈ Tree.allSubtrees forest, n.hasChildren = true

/-- If any node has children, a root has. -/
theorem Tree.branches_iff {α : Type} {forest : List (Tree α)} :
    Tree.Branches forest ↔ ∃ n ∈ forest, n.hasChildren = true := by
  induction forest with
  | nil => simp [Branches, allSubtrees]
  | cons t rest ih =>
    have hbelow : (∃ n ∈ allSubtrees t.children, n.hasChildren = true) → t.hasChildren = true := by
      rintro ⟨n, hn, -⟩
      obtain ⟨label, children⟩ := t
      cases children with
      | nil => cases hn
      | cons child others => rfl
    unfold Branches at ih ⊢
    simp only [allSubtrees_cons, List.mem_cons, List.mem_append, or_and_right, exists_or, exists_eq_left, ih]
    rw [← or_assoc, or_iff_left_of_imp hbelow]

namespace Forest

theorem allKeysAbove_eq_nil_iff {depth : Nat} {forest : List OrgNode} (h : ∀ n ∈ forest, n.label.level < depth) :
    allKeysAbove depth forest = [] ↔ ¬ ∃ n ∈ forest, n.hasChildren = true := by
  induction forest with
  | nil => simp [allKeysAbove]
  | cons n rest ih =>
    rw [List.forall_mem_cons] at h
    rw [allKeysAbove_cons, List.append_eq_nil_iff, ih h.2, decide_eq_true h.1, Bool.true_and]
    cases hn : n.hasChildren <;> simp [hn]

/-- What is expanded in an organization that was built and comes first is nothing only where no node has children. -/
theorem isEmpty_defaultExpanded_iff (sent : List RawNode) :
    (defaultExpanded (buildForest sent) Browser.initialDepth).isEmpty = true ↔ ¬ Tree.Branches sent := by
  have hlevel : ∀ n ∈ buildForest sent, n.label.level < Browser.initialDepth := by
    intro n hn
    rw [buildForest, buildNodes_eq_map] at hn
    obtain ⟨raw, -, rfl⟩ := List.mem_map.1 hn
    rw [label_buildNode]
    exact Nat.zero_lt_one
  have hchildren : (∃ n ∈ buildForest sent, n.hasChildren = true) ↔ ∃ n ∈ sent, n.hasChildren = true := by
    rw [buildForest, buildNodes_eq_map]
    simp only [List.mem_map, exists_exists_and_eq_and, Tree.hasChildren, children_buildNode, buildNodes_eq_map,
      List.isEmpty_map]
  rw [defaultExpanded, Std.TreeSet.isEmpty_ofList, List.isEmpty_iff, allKeysAbove_eq_nil_iff hlevel, hchildren,
    Tree.branches_iff]

end Forest

/-! ## What a key does -/

theorem Outline.isEmpty_refresh {p : Outline} (h : p.expanded.isEmpty = false) : p.refresh.expanded.isEmpty = false := by
  obtain ⟨key, hkey⟩ := Std.TreeSet.isEmpty_eq_false_iff_exists_contains_eq_true.1 h
  refine Std.TreeSet.isEmpty_eq_false_iff_exists_contains_eq_true.2 ⟨key, ?_⟩
  unfold Outline.refresh
  split
  · exact hkey
  · rw [Forest.contains_insertMany, hkey, Bool.true_or]

/-- A key leaves nothing expanded only if the node under the cursor was the last one. -/
theorem OutlineMove.last_closed {p p' : Outline} (hmove : OutlineMove p p') (hopen : p.expanded.isEmpty = false)
    (hclosed : p'.expanded.isEmpty = true) :
    ∃ r, p.rows[p.cursor]? = some r ∧ ∀ key, p.expanded.contains key = true ↔ key = r.node.label.key := by
  cases hmove with
  | kept | moved =>
    rw [hopen] at hclosed
    cases hclosed
  | searched search cursor =>
    have hstill := Outline.isEmpty_refresh (p := { p with search := search, cursor := cursor }) hopen
    exact absurd (hstill.symm.trans hclosed) Bool.false_ne_true
  | turned r hr keys hkeys =>
    have honly : ∀ key, p.expanded.contains key = true → key = r.node.label.key := by
      intro key hkey
      by_contra hne
      have hkept := hkeys key hne
      rw [hkey, Std.TreeSet.isEmpty_iff_forall_contains.1 hclosed key] at hkept
      cases hkept
    obtain ⟨last, hlast⟩ := Std.TreeSet.isEmpty_eq_false_iff_exists_contains_eq_true.1 hopen
    refine ⟨r, hr, fun key => ⟨honly key, ?_⟩⟩
    rintro rfl
    exact honly last hlast ▸ hlast

namespace Browser

variable {b : Browser}

/-! ## What a reply does -/

/-- What is expanded before the search that follows when an organization is shown. -/
theorem expanded_showForest (b : Browser) (forest : List OrgNode) :
    (b.showForest forest).expanded =
      { b.outline with
        forest := forest
        expanded := if b.expanded.isEmpty then Forest.defaultExpanded forest initialDepth else b.expanded }.refresh.expanded :=
  rfl

theorem isEmpty_receive (r : Reply) (h : b.expanded.isEmpty = false) : (b.receive r).expanded.isEmpty = false := by
  unfold receive
  split
  · exact h
  · match r with
    | .tree _ (.ok forest) =>
      rw [accept, expanded_showForest, h, if_neg Bool.false_ne_true]
      exact Outline.isEmpty_refresh h
    | .tree _ (.error _) | .staff _ _ (.ok _) | .staff _ _ (.error _) => exact h

theorem isEmpty_showForest {sent : List RawNode} (h : Tree.Branches sent) :
    (b.showForest (buildForest sent)).expanded.isEmpty = false := by
  rw [expanded_showForest]
  refine Outline.isEmpty_refresh ?_
  cases hb : b.expanded.isEmpty with
  | false =>
    rw [if_neg Bool.false_ne_true]
    exact hb
  | true =>
    rw [if_pos rfl, Bool.eq_false_iff, ne_eq, Forest.isEmpty_defaultExpanded_iff, not_not]
    exact h

/-- Without a search nothing but the organization itself has a say in what is expanded. -/
theorem expanded_showForest_of_no_search (h : b.search = "") (forest : List OrgNode) :
    (b.showForest forest).expanded =
      if b.expanded.isEmpty then Forest.defaultExpanded forest initialDepth else b.expanded := by
  rw [expanded_showForest, Outline.refresh]
  exact if_pos (String.isEmpty_iff.2 h)

/-- Without a search an organization changes what is expanded exactly if nothing is and one of its nodes has
children. -/
theorem contains_showForest_iff (h : b.search = "") (sent : List RawNode) :
    (∀ key, (b.showForest (buildForest sent)).expanded.contains key = b.expanded.contains key) ↔
      ¬ (b.expanded.isEmpty = true ∧ Tree.Branches sent) := by
  rw [expanded_showForest_of_no_search h]
  cases hb : b.expanded.isEmpty with
  | false => simp
  | true =>
    have hnone := Std.TreeSet.isEmpty_iff_forall_contains.1 hb
    simp only [if_true, hnone, true_and, ← Forest.isEmpty_defaultExpanded_iff, Std.TreeSet.isEmpty_iff_forall_contains]

end Browser

/-! ## Runs -/

namespace LoggedBrowser

/-- An organization comes that counts and has a node with children. -/
def ShowsBranches (s : LoggedBrowser) : Occurrence → Prop
  | .forest ticket (.ok sent) => s.browser.treeRequests.isCurrent ticket = true ∧ Tree.Branches sent
  | _ => False

/-- An organization with a node that has children was shown at some point. -/
def BranchesShownIn (os : List Occurrence) : Prop :=
  ∃ before o since, os = before ++ o :: since ∧ (run before).ShowsBranches o

/-- A key is pressed while the node under the cursor is the only one that is expanded. -/
def OnLastExpanded (s : LoggedBrowser) : Occurrence → Prop
  | .press _ => ∃ n, s.browser.cursorNode? = some n ∧ ∀ key, s.browser.expanded.contains key = true ↔ key = n.label.key
  | _ => False

/-- A key closed the last node that was expanded, and nothing has been expanded since. -/
def AllClosedIn (os : List Occurrence) : Prop :=
  HoldsSince OnLastExpanded (·.expanded.isEmpty = true) os

variable {s : LoggedBrowser} {o : Occurrence}

/-- An organization that counts is shown. -/
theorem after_forest_of_current {ticket : Ticket} (h : s.browser.treeRequests.isCurrent ticket = true)
    (sent : List RawNode) : (s.after (.forest ticket (.ok sent))).browser = s.browser.showForest (buildForest sent) := by
  show s.browser.receive (.tree ticket (.ok (buildForest sent))) = _
  rw [Browser.receive, Browser.isStale, h]
  rfl

theorem isEmpty_after_of_shows (h : s.ShowsBranches o) : (s.after o).browser.expanded.isEmpty = false := by
  match o with
  | .forest ticket (.ok sent) =>
    rw [after_forest_of_current h.1]
    exact Browser.isEmpty_showForest h.2
  | .load | .press _ | .forest _ (.error _) | .staff _ _ => exact h.elim

/-- Only a key on the last expanded node leaves nothing expanded. -/
theorem onLastExpanded_of_isEmpty (hopen : s.browser.expanded.isEmpty = false)
    (hclosed : (s.after o).browser.expanded.isEmpty = true) : s.OnLastExpanded o := by
  have hreply : ∀ r, (s.browser.receive r).expanded.isEmpty ≠ true := fun r => by
    rw [Browser.isEmpty_receive r hopen]
    exact Bool.false_ne_true
  cases o with
  | load => exact absurd (hopen.symm.trans hclosed) Bool.false_ne_true
  | press k =>
    rcases s.browser.press_cases k with hnone | hsome
    · simp only [after, hnone, hopen] at hclosed
      cases hclosed
    · simp only [after, hsome] at hclosed
      obtain ⟨r, hr, honly⟩ := (s.browser.outlineMove_handle k.key).last_closed hopen hclosed
      have hrow : s.browser.rows[s.browser.cursor]? = some r := hr
      exact ⟨r.node, by rw [Browser.cursorNode?, hrow, Option.map_some], honly⟩
  | forest ticket result => exact absurd hclosed (hreply _)
  | staff place answer =>
    rcases s.after_staff place answer with hsame | ⟨ticket, departmentId, -, hafter⟩
    · rw [hsame, hopen] at hclosed
      cases hclosed
    · rw [hafter] at hclosed
      exact absurd hclosed (hreply _)

theorem BranchesShownIn.of_concat {os : List Occurrence} (h : BranchesShownIn (os ++ [o])) :
    BranchesShownIn os ∨ (run os).ShowsBranches o := by
  obtain ⟨before, shown, since, hsplit, hshows⟩ := h
  rcases List.eq_nil_or_concat since with rfl | ⟨since, last, rfl⟩
  · obtain ⟨rfl, ho⟩ := List.append_inj' hsplit rfl
    exact .inr (List.singleton_inj.1 ho ▸ hshows)
  · rw [List.concat_eq_append, ← List.cons_append, ← List.append_assoc] at hsplit
    exact .inl ⟨before, shown, since, (List.append_inj' hsplit rfl).1, hshows⟩

/-- Once there were nodes to expand, nothing is expanded only if a key closed the last one. -/
theorem allClosedIn_iff {os : List Occurrence} (h : BranchesShownIn os) :
    AllClosedIn os ↔ (run os).browser.expanded.isEmpty = true := by
  refine ⟨HoldsSince.now, fun hempty => ?_⟩
  induction os using List.reverseRecOn with
  | nil =>
    obtain ⟨before, o, since, hsplit, -⟩ := h
    simp at hsplit
  | append_singleton os o ih =>
    have hafter := hempty
    rw [run_concat] at hafter
    rcases h.of_concat with hshown | hshows
    · cases hbefore : (run os).browser.expanded.isEmpty with
      | true => exact (ih hshown hbefore).concat hempty
      | false => exact .just (onLastExpanded_of_isEmpty hbefore hafter) hempty
    · rw [isEmpty_after_of_shows hshows] at hafter
      cases hafter

/-- A reply that does not count or is a failure leaves what is expanded alone. -/
theorem expanded_after_forest {ticket : Ticket} {result : Except String (List RawNode)}
    (h : ∀ sent, result = .ok sent → s.browser.treeRequests.isCurrent ticket = false) :
    (s.after (.forest ticket result)).browser.expanded = s.browser.expanded := by
  show (s.browser.receive (.tree ticket (result.map buildForest))).expanded = _
  unfold Browser.receive
  split
  · rfl
  · rename_i hcounts
    cases result with
    | error why => rfl
    | ok sent => exact absurd (congrArg not (h sent rfl)) hcounts

/-- In every run without a search in which an organization with a node that has children was shown, another one leaves
what is expanded as it is, unless a key closed the last expanded node, nothing has been expanded since, and the new
one counts and has a node with children. In that case it is expanded as if it were the first. -/
theorem expanded_after_reload (os : List Occurrence) (hsearch : (run os).browser.search = "")
    (hshown : BranchesShownIn os) (ticket : Ticket) (result : Except String (List RawNode)) :
    let reloaded := (run os).after (.forest ticket result)
    ((∀ key, reloaded.browser.expanded.contains key = (run os).browser.expanded.contains key) ↔
        ¬ (AllClosedIn os ∧ (run os).ShowsBranches (.forest ticket result))) ∧
      (AllClosedIn os → ∀ sent, result = .ok sent → (run os).browser.treeRequests.isCurrent ticket = true →
        reloaded.browser.expanded = Forest.defaultExpanded (buildForest sent) Browser.initialDepth) := by
  intro reloaded
  have hclosed := allClosedIn_iff hshown
  refine ⟨?_, ?_⟩
  · by_cases hcounts : ∃ sent, result = .ok sent ∧ (run os).browser.treeRequests.isCurrent ticket = true
    · obtain ⟨sent, rfl, hcurrent⟩ := hcounts
      have hshows : (run os).ShowsBranches (.forest ticket (.ok sent)) ↔ Tree.Branches sent :=
        and_iff_right hcurrent
      simp only [reloaded, after_forest_of_current hcurrent, hclosed, hshows]
      exact Browser.contains_showForest_iff hsearch sent
    · have hkept : reloaded.browser.expanded = (run os).browser.expanded :=
        expanded_after_forest fun sent hsent => Bool.eq_false_iff.2 fun hcurrent => hcounts ⟨sent, hsent, hcurrent⟩
      have hnot : ¬ (run os).ShowsBranches (.forest ticket result) := by
        cases result with
        | error why => exact id
        | ok sent => exact fun hshows => hcounts ⟨sent, rfl, hshows.1⟩
      exact iff_of_true (fun key => by rw [hkept]) fun h => hnot h.2
  · rintro hall sent rfl hcurrent
    show ((run os).after (.forest ticket (.ok sent))).browser.expanded = _
    rw [after_forest_of_current hcurrent, Browser.expanded_showForest_of_no_search hsearch, if_pos (hclosed.1 hall)]

/-- The department is opened and the corporation above it closed, and the next organization has another corporation
too. -/
theorem expanded_after_reload_of_closed_root :
    let acme := (RawNode.corp "c1" "Acme").withChildren [(RawNode.dept "d1" "Eng").withChildren [.dept "d2" "Web"]]
    let beta := (RawNode.corp "c2" "Beta").withChildren [.dept "d3" "Ops"]
    let os : List Occurrence := [.load, .forest ⟨1⟩ (.ok [acme]), .press ⟨.down, false⟩, .press ⟨.right, false⟩,
      .press ⟨.up, false⟩, .press ⟨.left, false⟩, .press ⟨.char 'r', false⟩]
    let reloaded := (run os).after (.forest ⟨2⟩ (.ok [acme, beta]))
    (run os).browser.search = "" ∧ BranchesShownIn os ∧ ¬ AllClosedIn os ∧
      (∀ key, reloaded.browser.expanded.contains key = (run os).browser.expanded.contains key) ∧
      reloaded.browser.expanded.toList = ["dept_d1"] ∧ reloaded.browser.rows.map (·.node.label.title) = ["Acme", "Beta"] := by
  intro acme beta os reloaded
  have hsearch : (run os).browser.search = "" := by decide +kernel
  have hshown : BranchesShownIn os :=
    ⟨[.load], _, _, rfl, by decide +kernel, acme, List.mem_cons_self, rfl⟩
  have hopen : ¬ AllClosedIn os := by
    rw [allClosedIn_iff hshown]
    decide +kernel
  have hkept := (expanded_after_reload os hsearch hshown ⟨2⟩ (.ok [acme, beta])).1.2 fun h => hopen h.1
  exact ⟨hsearch, hshown, hopen, hkept, by decide +kernel, by decide +kernel⟩

/-- The only open node is closed, and the same organization, when it comes again, is open. -/
theorem closed_root_reopened :
    let org := [(RawNode.corp "c1" "Acme").withChildren [.dept "d1" "Eng"]]
    let os : List Occurrence :=
      [.load, .forest ⟨1⟩ (.ok org), .press ⟨.char 'h', false⟩, .press ⟨.char 'r', false⟩]
    let reloaded := (run os).after (.forest ⟨2⟩ (.ok org))
    (run os).browser.search = "" ∧ BranchesShownIn os ∧ (run os).browser.expanded.toList = [] ∧
      reloaded.browser.expanded.toList = ["org_c1"] ∧
      ¬ ∀ key, reloaded.browser.expanded.contains key = (run os).browser.expanded.contains key := by
  intro org os reloaded
  have hchanged : reloaded.browser.expanded.contains "org_c1" ≠ (run os).browser.expanded.contains "org_c1" := by
    decide +kernel
  exact ⟨by decide +kernel, ⟨[.load], _, _, rfl, by decide +kernel, _, List.mem_cons_self, rfl⟩, by decide +kernel,
    by decide +kernel, fun h => hchanged (h "org_c1")⟩

end LoggedBrowser

end OrgConsole
