import OrgConsole.Proofs.Browser.Cursor
import OrgConsole.Proofs.Forest.Opening
/-!
# What a search finds is in sight

A search expands every node that it leaves and that has children, whatever was open or closed before.
So right after it, and right after an organization comes while there is a search, every node that the
search leaves has a row. Later the user may close nodes again.
-/

namespace OrgConsole

theorem OutlineMove.forest_eq {p p' : Outline} (h : OutlineMove p p') : p'.forest = p.forest := by
  cases h <;> rfl

/-- Only a search changes the search. -/
theorem OutlineMove.searched_of_ne {p p' : Outline} (h : OutlineMove p p') (hne : p'.search ≠ p.search) :
    ∃ cursor, p' = { p with search := p'.search, cursor := cursor }.refresh := by
  cases h with
  | searched search cursor => exact ⟨cursor, rfl⟩
  | kept | moved | turned => exact absurd rfl hne

theorem Outline.nodes_refresh {p : Outline} (hforest : Shallow p.forest) (hsearch : p.search ≠ "") :
    p.refresh.rows.map (·.node) = Tree.allSubtrees (searchForest p.forest p.search) := by
  have hexpanded : p.refresh.expanded =
      p.expanded.insertMany (Forest.parentKeys (searchForest p.forest p.search)) :=
    if_neg fun hempty => hsearch (String.isEmpty_iff.1 hempty)
  refine Forest.nodes_rows_of_open fun n hn hchildren => ?_
  have hparent := (Forest.contains_parentKeys_iff (hforest.searchForest p.search)).2 ⟨n, hn, hchildren, rfl⟩
  rw [hexpanded, Forest.contains_insertMany, hparent, Bool.or_true]

namespace Browser

/-- What is true of no forest at all and of every forest that is shown is true of the forest at any
time. -/
theorem Reachable.forest {P : List OrgNode → Prop} {b : Browser} (h : Reachable P b) (hnone : P []) : P b.forest := by
  refine h.outline_induction (I := fun p => P p.forest) hnone (fun hp hmove => ?_) fun _ _ hforest => hforest
  rwa [hmove.forest_eq]

/-- An organization that counts is shown with a search of its own. -/
theorem outline_receive_forest {b : Browser} {ticket : Ticket} {forest : List OrgNode}
    (hcounts : b.isStale (.tree ticket (.ok forest)) = false) :
    ∃ keys, (b.receive (.tree ticket (.ok forest))).outline =
      { b.outline with forest := forest, expanded := keys }.refresh := by
  unfold receive
  rw [hcounts]
  exact ⟨_, rfl⟩

/-- Every node that the search leaves has a row. -/
structure ShowsFound (b : Browser) : Prop where
  /-- Each has one row, in pre-order, and there are no others. -/
  nodes : b.rows.map (·.node) = Tree.allSubtrees (searchForest b.forest b.search)
  /-- The hits among the rows are all the hits of the forest. -/
  hits : (b.rows.map (·.node.label)).filter (·.isHit b.search) = (Tree.labels b.forest).filter (·.isHit b.search)

theorem showsFound_of_refresh {b : Browser} {p : Outline} (h : b.outline = p.refresh) (hforest : Shallow p.forest)
    (hsearch : p.search ≠ "") : b.ShowsFound := by
  have hb : b.rows = p.refresh.rows ∧ b.forest = p.forest ∧ b.search = p.search :=
    ⟨congrArg Outline.rows h, congrArg Outline.forest h, congrArg Outline.search h⟩
  have hnodes : b.rows.map (·.node) = Tree.allSubtrees (searchForest b.forest b.search) := by
    rw [hb.1, hb.2.1, hb.2.2]
    exact Outline.nodes_refresh hforest hsearch
  have hlabels : b.rows.map (·.node.label) = Tree.labels (searchForest b.forest b.search) := by
    rw [Tree.labels, ← hnodes, List.map_map]
    rfl
  refine ⟨hnodes, ?_⟩
  rw [hlabels, searchForest_of_ne (hb.2.2 ▸ hsearch), Tree.filter_labels_prune]

/-- In every browser that can come about, a key that changes the search to another that is not empty
brings everything that it finds into sight, and so does a reply that brings an organization while there
is a search. No organization may be so deep that levels run out of numbers. -/
theorem search_brings_into_sight (b : Browser) (h : Reachable Shallow b) :
    (∀ k move, b.press k = some move → move.1.search ≠ b.search → move.1.search ≠ "" →
      move.1.forest = b.forest ∧ move.1.ShowsFound) ∧
    ∀ ticket forest, b.isStale (.tree ticket (.ok forest)) = false → Shallow forest → b.search ≠ "" →
      (b.receive (.tree ticket (.ok forest))).forest = forest ∧
        (b.receive (.tree ticket (.ok forest))).search = b.search ∧
        (b.receive (.tree ticket (.ok forest))).ShowsFound := by
  refine ⟨fun k move hmove hchanged hsearch => ?_, fun ticket forest hcounts hforest hsearch => ?_⟩
  · obtain rfl := press_eq_some hmove
    have hstep := outlineMove_handle k.key b
    obtain ⟨cursor, hrefresh⟩ := hstep.searched_of_ne hchanged
    exact ⟨hstep.forest_eq, showsFound_of_refresh hrefresh (h.forest nofun) hsearch⟩
  · obtain ⟨keys, hrefresh⟩ := outline_receive_forest hcounts
    exact ⟨congrArg Outline.forest hrefresh, congrArg Outline.search hrefresh,
      showsFound_of_refresh hrefresh hforest hsearch⟩

/-- The root was closed before the search, and the reply comes after the search opened it again. -/
theorem search_brings_closed_into_sight :
    let eng := (RawNode.dept "d1" "Eng").withChildren [.dept "d2" "Data", .dept "d3" "Platform"]
    let forest := buildForest [(RawNode.corp "c1" "Acme").withChildren [eng, .dept "d4" "Sales"]]
    let closed := (new.requestTree.1.receive (.tree ⟨1⟩ (.ok forest))).handle .left
    let b := (closed.1.handle (.char '/')).1
    let found := (b.handle (.char 'f')).1
    let loading := found.requestTree.1
    let reloaded := loading.receive (.tree ⟨2⟩ (.ok forest))
    Reachable Shallow b ∧ b.rows.map (·.node.label.title) = ["Acme"] ∧
      b.press ⟨.char 'f', false⟩ = some (b.handle (.char 'f')) ∧ found.search ≠ b.search ∧ found.search ≠ "" ∧
      found.ShowsFound ∧ found.rows.map (·.node.label.title) = ["Acme", "Eng", "Platform"] ∧
      Reachable Shallow loading ∧ loading.isStale (.tree ⟨2⟩ (.ok forest)) = false ∧ Shallow forest ∧
      reloaded.ShowsFound := by
  intro eng forest closed b found loading reloaded
  have hforest : Shallow forest := shallow_buildForest (by decide)
  have hloaded : Reachable Shallow (new.requestTree.1.receive (.tree ⟨1⟩ (.ok forest))) := by
    refine .receive _ (.load .new) ?_
    rintro ticket _ ⟨rfl, rfl⟩ -
    exact hforest
  have hb : Reachable Shallow b := hloaded.handleAll (by decide : Key.char 'q' ∉ [.left, .char '/'])
  have hkey : b.press ⟨.char 'f', false⟩ = some (b.handle (.char 'f')) := if_neg (by simp [quits])
  have hsearch : found.search = "f" ∧ b.search = "" := by decide +kernel
  have hchanged : found.search ≠ b.search := by rw [hsearch.1, hsearch.2]; decide
  have hne : found.search ≠ "" := by rw [hsearch.1]; decide
  obtain ⟨-, hfound⟩ := (search_brings_into_sight b hb).1 _ _ hkey hchanged hne
  have hloading : Reachable Shallow loading := .load (.press _ hb hkey)
  have hcounts : loading.isStale (.tree ⟨2⟩ (.ok forest)) = false := by decide +kernel
  obtain ⟨-, -, hreloaded⟩ := (search_brings_into_sight loading hloading).2 ⟨2⟩ forest hcounts hforest hne
  exact ⟨hb, by decide +kernel, hkey, hchanged, hne, hfound, by decide +kernel, hloading, hcounts, hforest,
    hreloaded⟩

end Browser

end OrgConsole
