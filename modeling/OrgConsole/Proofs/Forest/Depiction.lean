import OrgConsole.Proofs.Forest.Listing
import OrgConsole.Proofs.Text.Blank
/-!
# What the display forest says of the backend's

Building hands an id, a path and a level down from parent to child. Seen from one node it comes to
what `Depicts` says of the node and its ancestors, and seen from outside the display forest has the
shape of the backend's. The keys tell the nodes apart that differ in kind or in id.
-/

namespace OrgConsole

/-! ## Shape -/

namespace Tree

variable {α β γ : Type}

mutual

/-- The same tree with other labels. -/
def relabel (f : α → β) : Tree α → Tree β
  | ⟨label, children⟩ => ⟨f label, relabelAll f children⟩

/-- The same forest with other labels. -/
def relabelAll (f : α → β) : List (Tree α) → List (Tree β)
  | [] => []
  | t :: rest => t.relabel f :: relabelAll f rest

end

mutual

theorem size_relabel (f : α → β) : ∀ t : Tree α, (t.relabel f).size = t.size
  | ⟨_, children⟩ => by rw [relabel, size, size, sizes_relabelAll f children]

theorem sizes_relabelAll (f : α → β) : ∀ forest : List (Tree α), sizes (relabelAll f forest) = sizes forest
  | [] => rfl
  | t :: rest => by rw [relabelAll, sizes, sizes, size_relabel f t, sizes_relabelAll f rest]

end

end Tree

/-- What building keeps of a node that does not depend on its place. -/
theorem relabelAll_buildNodes : ∀ (names : CorpNames) (above : Owner) (place : Place) (forest : List RawNode),
    Tree.relabelAll (fun i => (i.title, i.kind)) (buildNodes names above place forest) =
      Tree.relabelAll (fun p => (p.name, p.kind)) forest
  | _, _, _, [] => rfl
  | names, above, place, ⟨p, children⟩ :: rest => by
    rw [buildNodes, buildNode, Tree.relabelAll, Tree.relabelAll, Tree.relabel, Tree.relabel,
      relabelAll_buildNodes _ _ _ children, relabelAll_buildNodes _ _ _ rest]
    rfl

/-! ## One node -/

/-- The id that a node is known by: a department's own one, unless it is blank, else the node's. -/
def knownId (p : Payload) : String :=
  match p.kind, p.deptId with
  | .dept, some id => if Text.trim id.toList = [] then p.id else id
  | _, _ => p.id

/-- The names from the root down to a node, with slashes between them; empty ones that come first do
not count. -/
def breadcrumb (lineage : List Payload) : String :=
  "/".intercalate ((lineage.reverse.map (·.name)).dropWhile (· = ""))

/-- The display node `m` below `above'` is what the node `n` below `above` should look like. -/
structure Depicts (n : RawNode) (above : List RawNode) (m : OrgNode) (above' : List OrgNode) : Prop where
  title : m.label.title = n.label.name
  kind : m.label.kind = n.label.kind
  id : m.label.id = knownId n.label
  key : m.label.key = (if n.label.kind = .corp then "org_" else "dept_") ++ knownId n.label
  level : m.label.level = above.length
  /-- Of a parent the known id counts, and a root has no parent. -/
  parentId : m.label.parentId = above.head?.map fun parent => knownId parent.label
  /-- The parent's id is what the display node above says. -/
  parent : m.label.parentId = above'.head?.map fun parent => parent.label.id
  disabled : m.label.disabled = true ↔ n.label.kind = .corp
  path : m.label.path = breadcrumb ((n :: above).map (·.label))

theorem resolvedId_eq (p : Payload) : p.resolvedId = knownId p := by
  unfold Payload.resolvedId knownId
  cases p.kind with
  | corp => rfl
  | dept =>
    cases p.deptId with
    | none => rfl
    | some id => by_cases h : Text.trim id.toList = [] <;> simp [Text.nonBlank?_eq, h]

/-- A path is empty only if all names so far are. -/
theorem breadcrumb_eq_empty_iff (lineage : List Payload) :
    breadcrumb lineage = "" ↔ (lineage.reverse.map (·.name)).dropWhile (· = "") = [] := by
  unfold breadcrumb
  refine ⟨fun h => ?_, fun h => by rw [h]; rfl⟩
  cases hnames : (lineage.reverse.map (·.name)).dropWhile (· = "") with
  | nil => rfl
  | cons name rest =>
    have hname : name ≠ "" := by
      have := List.head?_dropWhile_not (fun s : String => decide (s = "")) (lineage.reverse.map (·.name))
      rw [hnames] at this
      simpa using this
    rw [hnames] at h
    cases rest with
    | nil =>
      rw [String.intercalate_singleton] at h
      exact absurd h hname
    | cons next rest =>
      rw [String.intercalate_cons_cons, String.append_eq_empty_iff, String.append_eq_empty_iff] at h
      exact absurd h.1.1 hname

theorem breadcrumb_cons (p : Payload) (ups : List Payload) :
    breadcrumb (p :: ups) = if breadcrumb ups = "" then p.name else breadcrumb ups ++ "/" ++ p.name := by
  have hempty := breadcrumb_eq_empty_iff ups
  have hsplit : (((p :: ups).reverse.map (·.name)).dropWhile (· = "")) =
      if breadcrumb ups = "" then [p.name].dropWhile (· = "")
      else (ups.reverse.map (·.name)).dropWhile (· = "") ++ [p.name] := by
    rw [List.reverse_cons, List.map_append, List.map_singleton, List.dropWhile_append]
    simp only [List.isEmpty_iff, hempty]
  by_cases h : breadcrumb ups = ""
  · rw [if_pos h] at hsplit ⊢
    unfold breadcrumb
    rw [hsplit]
    by_cases hp : p.name = "" <;> simp [hp]
  · rw [if_neg h] at hsplit ⊢
    rw [breadcrumb, hsplit, String.intercalate_append_of_ne_nil (mt hempty.2 h) (List.cons_ne_nil _ _),
      String.intercalate_singleton]
    rfl

/-- The place below a lineage, in terms of the lineage. -/
theorem placeBelow_root (ups : List RawNode) :
    placeBelow .root ups =
      ⟨ups.head?.map fun n => knownId n.label, breadcrumb (ups.map (·.label)), ups.length⟩ := by
  induction ups with
  | nil => rfl
  | cons n ups ih =>
    have hplace : placeBelow .root (n :: ups) = n.label.childPlace (placeBelow .root ups) := rfl
    rw [hplace, ih, Payload.childPlace, Payload.pathBelow, resolvedId_eq, List.map_cons, breadcrumb_cons]
    simp only [String.isEmpty_iff, List.head?_cons, Option.map_some, List.length_cons]

theorem depicts_info (n : RawNode) (above : List RawNode) (owner : Owner) (children : List OrgNode)
    (above' : List OrgNode)
    (habove : above'.head?.map (fun parent => parent.label.id) = above.head?.map fun parent => knownId parent.label) :
    Depicts n above ⟨n.label.info (placeBelow .root above) owner, children⟩ above' := by
  have hplace := placeBelow_root above
  refine {
    title := rfl
    kind := rfl
    id := resolvedId_eq n.label
    key := ?_
    level := congrArg Place.level hplace
    parentId := congrArg Place.parentId hplace
    parent := (congrArg Place.parentId hplace).trans habove.symm
    disabled := decide_eq_true_iff
    path := ?_ }
  · show nodeKey n.label.kind n.label.resolvedId = _
    rw [resolvedId_eq]
    cases n.label.kind <;> rfl
  · show n.label.pathBelow (placeBelow .root above) = _
    rw [hplace, List.map_cons, breadcrumb_cons, Payload.pathBelow]
    simp only [String.isEmpty_iff]

/-- The display nodes above one are the built ancestors, so the nearest is known by their id. -/
theorem head?_builtLineage (names : CorpNames) (above : Owner) (place : Place) (ups : List RawNode) :
    ((builtLineage names above place ups).head?.map fun m => m.label.id) =
      ups.head?.map fun n => knownId n.label := by
  cases ups with
  | nil => rfl
  | cons n ups =>
    simp only [builtLineage, List.head?_cons, Option.map_some, label_buildNode, Payload.info, resolvedId_eq]

/-! ## Keys -/

theorem nodeKey_inj {kind kind' : NodeKind} {id id' : String} :
    nodeKey kind id = nodeKey kind' id' ↔ kind = kind' ∧ id = id' := by
  refine ⟨fun h => ?_, fun ⟨hkind, hid⟩ => by rw [hkind, hid]⟩
  cases kind <;> cases kind'
  · exact ⟨rfl, (String.append_right_inj _).1 h⟩
  · exact absurd h.symm (deptKey_ne_corpKey _ _)
  · exact absurd h (deptKey_ne_corpKey _ _)
  · exact ⟨rfl, (String.append_right_inj _).1 h⟩

theorem key_eq_iff {forest : List OrgNode} (h : Keyed forest) {i j : NodeInfo} (hi : i ∈ Tree.labels forest)
    (hj : j ∈ Tree.labels forest) : i.key = j.key ↔ i.kind = j.kind ∧ i.id = j.id := by
  rw [h i hi, h j hj, nodeKey_inj]

/-! ## The whole forest -/

/-- The display forest has the shape of the backend's forest, title for name; the node at every address
looks as it should; and two nodes share a key exactly if they share kind and id. -/
theorem buildForest_depicts (forest : List RawNode) :
    Tree.relabelAll (fun i => (i.title, i.kind)) (buildForest forest) =
        Tree.relabelAll (fun p => (p.name, p.kind)) forest ∧
      Tree.sizes (buildForest forest) = Tree.sizes forest ∧
      (∀ address n above, Tree.lineage? forest address = some (n :: above) →
        ∃ m above', Tree.lineage? (buildForest forest) address = some (m :: above') ∧ Depicts n above m above') ∧
      ∀ i ∈ Tree.labels (buildForest forest), ∀ j ∈ Tree.labels (buildForest forest),
        (i.key = j.key ↔ i.kind = j.kind ∧ i.id = j.id) := by
  have hshape := relabelAll_buildNodes (corpNames forest) .nobody .root forest
  refine ⟨hshape, ?_, ?_, fun i hi j hj => key_eq_iff (keyed_buildForest forest) hi hj⟩
  · have hsizes := congrArg Tree.sizes hshape
    rwa [Tree.sizes_relabelAll, Tree.sizes_relabelAll] at hsizes
  · intro address n above h
    have hbuilt := lineage?_buildForest forest address
    rw [h, Option.map_some, builtLineage] at hbuilt
    refine ⟨_, _, hbuilt, ?_⟩
    obtain ⟨p, children⟩ := n
    rw [buildNode]
    exact depicts_info ⟨p, children⟩ above _ _ _ (head?_builtLineage _ _ _ above)

/-- The corporation on top has no name and the department below it a blank id of its own. -/
theorem depicts_below_nameless :
    let ops : RawNode := ⟨⟨"3", "Ops", .dept, none, some "ops", none⟩, []⟩
    let eng : RawNode := ⟨⟨"2", "Eng", .dept, none, some " ", none⟩, [ops]⟩
    let top := (RawNode.corp "1" "").withChildren [eng]
    Tree.lineage? [top] [0, 0, 0] = some [ops, eng, top] ∧
      ∃ m above', Tree.lineage? (buildForest [top]) [0, 0, 0] = some (m :: above') ∧
        Depicts ops [eng, top] m above' ∧ m.label.key = "dept_ops" ∧ m.label.parentId = some "2" ∧
        m.label.level = 2 ∧ m.label.path = "Eng/Ops" := by
  intro ops eng top
  have h : Tree.lineage? [top] [0, 0, 0] = some [ops, eng, top] := rfl
  obtain ⟨-, -, hnodes, -⟩ := buildForest_depicts [top]
  obtain ⟨m, above', hm, hdepicts⟩ := hnodes [0, 0, 0] ops [eng, top] h
  refine ⟨h, m, above', hm, hdepicts, ?_, ?_, hdepicts.level, ?_⟩
  · exact hdepicts.key.trans (by decide)
  · exact hdepicts.parentId.trans (by decide)
  · exact hdepicts.path.trans (by decide)

end OrgConsole
