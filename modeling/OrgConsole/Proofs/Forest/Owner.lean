import OrgConsole.Proofs.Forest.Lineage
import OrgConsole.Proofs.Text.Blank
/-!
# Who owns a node

Building hands the owner down level by level, and at every level its id and its name fall back in
different ways. Seen from one node it comes to one rule over the node's lineage. The id is looked for
in the departments from the node up, then in the nearest corporation. The name is looked for among
all corporations by the ids of the same departments, from the node up; then in the nearest
corporation; then in the business paths, from the top down to the node. What lies above the nearest
corporation does not matter.
-/

namespace OrgConsole

/-! ## The rule -/

/-- The first text that is not blank. -/
def firstText? (texts : List String) : Option String :=
  texts.find? fun s => Text.trim s.toList ≠ []

/-- The name of the last corporation with an id, in pre-order. -/
def corpNamed? (forest : List RawNode) (id : String) : Option String :=
  ((Tree.labels forest).reverse.find? fun p => p.kind = .corp ∧ p.id = id).map (·.name)

/-- The parts of a path between its slashes, trimmed. -/
def trimmedParts (path : String) : List String :=
  (path.toList.splitOn '/').map fun part => String.ofList (Text.trim part)

/-! The payloads of a lineage stand in one list, from the node up to its root. -/

namespace Lineage

/-- The node and the departments above it, up to the nearest corporation. -/
def departments (lineage : List Payload) : List Payload :=
  lineage.takeWhile (·.kind = .dept)

/-- The nearest corporation. -/
def corporation? (lineage : List Payload) : Option Payload :=
  lineage.find? (·.kind = .corp)

/-- Where the owner's id is looked for. -/
def ownerIds (lineage : List Payload) : List String :=
  (departments lineage).filterMap (·.corpId) ++ ((corporation? lineage).map (·.id)).toList

def ownerId (lineage : List Payload) : String :=
  (firstText? (ownerIds lineage)).getD ""

/-- Where the owner's name is looked for. -/
def ownerNames (forest : List RawNode) (lineage : List Payload) : List String :=
  ((List.range (departments lineage).length).filterMap fun i => corpNamed? forest (ownerId (lineage.drop i))) ++
    ((corporation? lineage).map (·.name)).toList ++
    (departments lineage).reverse.flatMap fun p => (p.businessPath.map trimmedParts).getD []

def ownerName (forest : List RawNode) (lineage : List Payload) : String :=
  (firstText? (ownerNames forest lineage)).getD ""

end Lineage

/-! ## Texts -/

theorem firstText?_append (texts more : List String) :
    firstText? (texts ++ more) = (firstText? texts).or (firstText? more) :=
  List.find?_append

theorem firstText?_singleton (s : String) : firstText? [s] = Text.nonBlank? s := by
  rw [Text.nonBlank?_eq, firstText?, List.find?_singleton]
  by_cases h : Text.trim s.toList = [] <;> simp [h]

theorem firstText?_toList (s : Option String) : firstText? s.toList = s.bind Text.nonBlank? := by
  cases s with
  | none => rfl
  | some s => exact firstText?_singleton s

/-- What was found is not blank, and the empty text, which stands for nothing found, is. -/
theorem nonBlank?_firstText? (texts : List String) :
    Text.nonBlank? ((firstText? texts).getD "") = firstText? texts := by
  cases h : firstText? texts with
  | none => rfl
  | some s =>
    have hs : Text.trim s.toList ≠ [] := by simpa using List.find?_some h
    rw [Option.getD_some, Text.nonBlank?_eq, if_neg hs]

theorem slashParts_eq_splitOn (cs : List Char) : slashParts cs = cs.splitOn '/' := by
  induction cs with
  | nil => rfl
  | cons c rest ih =>
    rw [slashParts, ih, List.splitOn_cons_eq_if_modifyHead]
    cases h : rest.splitOn '/' with
    | nil => exact absurd h (List.splitOn_ne_nil _ _)
    | cons part parts => by_cases hc : c = '/' <;> simp [hc]

theorem firstPart?_eq (path : String) : firstPart? path = firstText? (trimmedParts path) := by
  have hblank : (fun part => decide (Text.trim (String.ofList (Text.trim part)).toList ≠ [])) =
      fun part => !(Text.trim part).isEmpty := by
    funext part
    rw [String.toList_ofList, Bool.eq_iff_iff]
    simp [Text.trim_trim_eq_nil_iff]
  unfold firstPart? firstText? trimmedParts
  rw [slashParts_eq_splitOn, List.find?_map, List.find?_map, Option.map_map]
  simp only [Function.comp_def]
  rw [hblank]

/-! ## Names of corporations -/

theorem getElem?_foldl_insert (ps : List Payload) (names : CorpNames) (id : String) :
    (ps.foldl (fun names p => if p.kind = .corp then names.insert p.id p.name else names) names)[id]? =
      ((ps.reverse.find? fun p => p.kind = .corp ∧ p.id = id).map (·.name)).or names[id]? := by
  induction ps generalizing names with
  | nil => rfl
  | cons p rest ih =>
    rw [List.foldl_cons, ih, List.reverse_cons, List.find?_append, Option.map_or, Option.or_assoc,
      List.find?_singleton]
    by_cases hp : p.kind = .corp
    · by_cases hid : p.id = id <;> simp [hp, hid, Std.TreeMap.getElem?_insert]
    · simp [hp]

theorem getElem?_corpNames (forest : List RawNode) (id : String) :
    (corpNames forest)[id]? = corpNamed? forest id := by
  unfold corpNames corpNamed?
  rw [getElem?_foldl_insert, Std.TreeMap.getElem?_emptyc, Option.or_none]

/-! ## The rule, one level at a time -/

namespace Lineage

variable {p : Payload} (ups : List Payload)

theorem ownerIds_corp (hp : p.kind = .corp) : ownerIds (p :: ups) = [p.id] := by
  simp [ownerIds, departments, corporation?, hp]

theorem ownerNames_corp (forest : List RawNode) (hp : p.kind = .corp) : ownerNames forest (p :: ups) = [p.name] := by
  simp [ownerNames, departments, corporation?, hp]

theorem departments_dept (hp : p.kind = .dept) : departments (p :: ups) = p :: departments ups := by
  simp [departments, hp]

theorem corporation?_dept (hp : p.kind = .dept) : corporation? (p :: ups) = corporation? ups := by
  simp [corporation?, hp]

theorem ownerIds_dept (hp : p.kind = .dept) : ownerIds (p :: ups) = p.corpId.toList ++ ownerIds ups := by
  unfold ownerIds
  rw [departments_dept ups hp, corporation?_dept ups hp, ← List.append_assoc]
  cases h : p.corpId with
  | none => rw [List.filterMap_cons_none h, Option.toList_none, List.nil_append]
  | some id => rw [List.filterMap_cons_some h, Option.toList_some, List.singleton_append]

theorem ownerNames_dept (forest : List RawNode) (hp : p.kind = .dept) :
    ownerNames forest (p :: ups) =
      (corpNamed? forest (ownerId (p :: ups))).toList ++
        (ownerNames forest ups ++ (p.businessPath.map trimmedParts).getD []) := by
  have hlookup : ((List.range ((departments ups).length + 1)).filterMap fun i =>
        corpNamed? forest (ownerId ((p :: ups).drop i))) =
      (corpNamed? forest (ownerId (p :: ups))).toList ++
        (List.range (departments ups).length).filterMap fun i => corpNamed? forest (ownerId (ups.drop i)) := by
    rw [List.range_succ_eq_map, List.filterMap_cons, List.drop_zero, List.filterMap_map]
    cases corpNamed? forest (ownerId (p :: ups)) <;> rfl
  unfold ownerNames
  rw [departments_dept ups hp, corporation?_dept ups hp, List.length_cons, hlookup, List.reverse_cons,
    List.flatMap_append, List.flatMap_singleton]
  simp only [List.append_assoc]

end Lineage

/-- What a department gets, if its parents' owner follows the rule up to blanks. -/
theorem deptOwner_eq {forest : List RawNode} {p : Payload} (hp : p.kind = .dept) {ups : List Payload} {above : Owner}
    (hid : Text.nonBlank? above.id = firstText? (Lineage.ownerIds ups))
    (hname : Text.nonBlank? above.name = firstText? (Lineage.ownerNames forest ups)) :
    p.deptOwner (corpNames forest) above = ⟨Lineage.ownerId (p :: ups), Lineage.ownerName forest (p :: ups)⟩ := by
  have hownerId : ((p.corpId.bind Text.nonBlank?).or (Text.nonBlank? above.id)).getD "" =
      Lineage.ownerId (p :: ups) := by
    rw [hid, Lineage.ownerId, Lineage.ownerIds_dept ups hp, firstText?_append, firstText?_toList]
  have hpath : p.businessPath.bind firstPart? = firstText? ((p.businessPath.map trimmedParts).getD []) := by
    cases p.businessPath with
    | none => rfl
    | some path => exact firstPart?_eq path
  unfold Payload.deptOwner
  simp only [hownerId]
  rw [hname, hpath, getElem?_corpNames, Lineage.ownerName, Lineage.ownerNames_dept ups forest hp, firstText?_append,
    firstText?_append, firstText?_toList]

/-- The owner below a lineage follows the rule, up to texts that are blank. -/
theorem nonBlank?_ownerBelow (forest ups : List RawNode) :
    Text.nonBlank? (ownerBelow (corpNames forest) .nobody ups).id =
        firstText? (Lineage.ownerIds (ups.map (·.label))) ∧
      Text.nonBlank? (ownerBelow (corpNames forest) .nobody ups).name =
        firstText? (Lineage.ownerNames forest (ups.map (·.label))) := by
  -- A blank name of a corporation goes down as it is and counts for nothing further down, so only what
  -- is not blank of it can follow the rule.
  induction ups with
  | nil => exact ⟨rfl, rfl⟩
  | cons n ups ih =>
    have howner : ownerBelow (corpNames forest) .nobody (n :: ups) =
        n.label.owner (corpNames forest) (ownerBelow (corpNames forest) .nobody ups) := rfl
    rw [howner, List.map_cons, Payload.owner]
    cases hp : n.label.kind with
    | corp =>
      rw [Lineage.ownerIds_corp _ hp, Lineage.ownerNames_corp _ forest hp]
      exact ⟨(firstText?_singleton _).symm, (firstText?_singleton _).symm⟩
    | dept =>
      simp only [deptOwner_eq hp ih.1 ih.2]
      exact ⟨nonBlank?_firstText? _, nonBlank?_firstText? _⟩

/-- A department is owned as the rule over its lineage says, and a corporation by itself. -/
theorem owner_of_node (forest : List RawNode) (address : List Nat) (n : RawNode) (above : List RawNode)
    (h : Tree.lineage? forest address = some (n :: above)) :
    ∃ m above', Tree.lineage? (buildForest forest) address = some (m :: above') ∧
      (n.label.kind = .dept →
        m.label.corpId = Lineage.ownerId ((n :: above).map (·.label)) ∧
        m.label.corpName = Lineage.ownerName forest ((n :: above).map (·.label))) ∧
      (n.label.kind = .corp → m.label.corpId = n.label.id ∧ m.label.corpName = n.label.name) := by
  have hbuilt := lineage?_buildForest forest address
  rw [h, Option.map_some, builtLineage] at hbuilt
  refine ⟨_, _, hbuilt, ?_⟩
  rw [label_buildNode, Payload.info]
  simp only [Payload.owner]
  constructor
  · intro hp
    obtain ⟨hid, hname⟩ := nonBlank?_ownerBelow forest above
    simp only [hp, deptOwner_eq hp hid hname, List.map_cons, and_self]
  · intro hp
    simp only [hp, and_self]

/-- Every corporation in sight is nameless, so the business path that stands highest names the owner. -/
theorem owner_named_by_path :
    let ops := ((RawNode.dept "d2" "Ops").withCorpId "c9").withBusinessPath "Umbrella/Ops"
    let eng := ((RawNode.dept "d1" "Eng").withBusinessPath " / Initech /Eng").withChildren [ops]
    let top := (RawNode.corp "" " ").withChildren [eng]
    let forest := [top, RawNode.corp "c9" ""]
    Tree.lineage? forest [0, 0, 0] = some [ops, eng, top] ∧
      ∃ m above', Tree.lineage? (buildForest forest) [0, 0, 0] = some (m :: above') ∧
        m.label.corpId = "c9" ∧ m.label.corpName = "Initech" := by
  intro ops eng top forest
  have h : Tree.lineage? forest [0, 0, 0] = some [ops, eng, top] := rfl
  obtain ⟨m, above', hm, hdept, -⟩ := owner_of_node forest [0, 0, 0] ops [eng, top] h
  obtain ⟨hid, hname⟩ := hdept rfl
  exact ⟨h, m, above', hm, hid.trans (by decide), hname.trans (by decide)⟩

end OrgConsole
