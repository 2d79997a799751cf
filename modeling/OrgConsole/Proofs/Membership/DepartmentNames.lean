import OrgConsole.Membership.Department
import OrgConsole.Proofs.Forest.Depiction
/-!
# Which department a name stands for

A department answers to its key and to its id, and a name can be the key of one and the id of another;
it can also be the key of a corporation. A corporation is refused before anything else is looked at.
After that a key goes before an id, wherever the two stand, and of several departments that answer in
the same way the first counts.
-/

namespace OrgConsole

/-! ## The rule -/

/-- `a` is the first of a list that satisfies `P`. -/
def IsFirst {α : Type} (P : α → Prop) (as : List α) (a : α) : Prop :=
  P a ∧ ∃ before after, as = before ++ a :: after ∧ ∀ b ∈ before, ¬ P b

/-- A corporation whose id is `id` has the name for its key. -/
def NamesCorporation (forest : List RawNode) (name id : String) : Prop :=
  "org_" ++ id = name ∧ ∃ p ∈ Tree.labels forest, p.kind = .corp ∧ p.id = id

/-- Some department has the name for its key or for its id. -/
def NamesDepartment (forest : List RawNode) (name : String) : Prop :=
  ∃ p ∈ Tree.labels forest, p.kind = .dept ∧ ("dept_" ++ knownId p = name ∨ knownId p = name)

/-- The display node is the one, of nodes in pre-order, that a name stands for. -/
inductive DepartmentNamed (nodes : List NodeInfo) (name : String) (i : NodeInfo) : Prop
  | byKey (h : IsFirst (fun j => j.kind = .dept ∧ "dept_" ++ j.id = name) nodes i)
  | byId (hkeys : ∀ j ∈ nodes, ¬ (j.kind = .dept ∧ "dept_" ++ j.id = name))
      (h : IsFirst (fun j => j.kind = .dept ∧ j.id = name) nodes i)

/-! ## Nodes and what they are built from -/

/-- Building keeps kinds and known ids, in pre-order. -/
theorem kinds_ids_buildNodes (names : CorpNames) : ∀ (above : Owner) (place : Place) (forest : List RawNode),
    (Tree.labels (buildNodes names above place forest)).map (fun i => (i.kind, i.id)) =
      (Tree.labels forest).map fun p => (p.kind, knownId p)
  | _, _, [] => rfl
  | above, place, ⟨p, children⟩ :: rest => by
    have hchildren := kinds_ids_buildNodes names (p.owner names above) (p.childPlace place) children
    have hrest := kinds_ids_buildNodes names above place rest
    rw [buildNodes, Tree.labels_cons, Tree.labels_cons, label_buildNode, children_buildNode, List.map_cons,
      List.map_append, hchildren, hrest, List.map_cons, List.map_append, ← resolvedId_eq]
    rfl

theorem kinds_ids_buildForest (forest : List RawNode) :
    (Tree.labels (buildForest forest)).map (fun i => (i.kind, i.id)) =
      (Tree.labels forest).map fun p => (p.kind, knownId p) :=
  kinds_ids_buildNodes _ _ _ forest

theorem exists_built_iff {forest : List RawNode} {kind : NodeKind} {id : String} :
    (∃ i ∈ Tree.labels (buildForest forest), i.kind = kind ∧ i.id = id) ↔
      ∃ p ∈ Tree.labels forest, p.kind = kind ∧ knownId p = id := by
  have hmem : (kind, id) ∈ (Tree.labels (buildForest forest)).map (fun i => (i.kind, i.id)) ↔
      (kind, id) ∈ (Tree.labels forest).map fun p => (p.kind, knownId p) := by
    rw [kinds_ids_buildForest]
  simpa only [List.mem_map, Prod.mk.injEq] using hmem

theorem knownId_corp {p : Payload} (h : p.kind = .corp) : knownId p = p.id := by
  unfold knownId
  rw [h]

theorem namesCorporation_iff {forest : List RawNode} {name id : String} :
    NamesCorporation forest name id ↔
      corpKey id = name ∧ ∃ i ∈ Tree.labels (buildForest forest), i.kind = .corp ∧ i.id = id := by
  rw [exists_built_iff]
  refine and_congr_right fun _ => exists_congr fun p => and_congr_right fun _ => and_congr_right fun hkind => ?_
  rw [knownId_corp hkind]

theorem namesDepartment_iff {forest : List RawNode} {name : String} :
    NamesDepartment forest name ↔
      ∃ i ∈ Tree.labels (buildForest forest), i.kind = .dept ∧ (deptKey i.id = name ∨ i.id = name) := by
  constructor
  · rintro ⟨p, hp, hkind, hname⟩
    obtain ⟨i, hi, hkind', hid⟩ := exists_built_iff.2 ⟨p, hp, hkind, rfl⟩
    exact ⟨i, hi, hkind', hid ▸ hname⟩
  · rintro ⟨i, hi, hkind, hname⟩
    obtain ⟨p, hp, hkind', hid⟩ := exists_built_iff.1 ⟨i, hi, hkind, rfl⟩
    exact ⟨p, hp, hkind', hid ▸ hname⟩

/-! ## Looking up -/

theorem find?_eq_some_iff_isFirst {α : Type} {p : α → Bool} {P : α → Prop} {as : List α}
    (hp : ∀ a ∈ as, p a = true ↔ P a) {a : α} : as.find? p = some a ↔ IsFirst P as a := by
  rw [List.find?_eq_some_iff_append]
  constructor
  · rintro ⟨ha, before, after, rfl, hbefore⟩
    refine ⟨(hp a (by simp)).1 ha, before, after, rfl, fun b hb hPb => ?_⟩
    have := hbefore b hb
    rw [(hp b (by simp [hb])).2 hPb] at this
    cases this
  · rintro ⟨ha, before, after, rfl, hbefore⟩
    refine ⟨(hp a (by simp)).2 ha, before, after, rfl, fun b hb => ?_⟩
    rw [Bool.not_eq_true', Bool.eq_false_iff]
    exact fun hpb => hbefore b hb ((hp b (by simp [hb])).1 hpb)

section

variable {forest : List OrgNode} {name : String}

theorem nodeNamed?_of_corporation (hkeyed : Keyed forest) {i : NodeInfo} (hi : i ∈ Tree.labels forest)
    (hkind : i.kind = .corp) (hname : corpKey i.id = name) :
    ∃ j, nodeNamed? (Tree.labels forest) name = some j ∧ j.kind = .corp ∧ j.id = i.id := by
  have hkey : i.key = name := by rw [hkeyed i hi, hkind]; exact hname
  obtain ⟨j, hj⟩ : ∃ j, (Tree.labels forest).find? (·.key = name) = some j :=
    Option.isSome_iff_exists.1 (List.find?_isSome.2 ⟨i, hi, by simpa using hkey⟩)
  have hsame : j.kind = i.kind ∧ j.id = i.id := by
    refine (key_eq_iff hkeyed (List.mem_of_find?_eq_some hj) hi).1 ?_
    rw [hkey]
    simpa using List.find?_some hj
  exact ⟨j, by rw [nodeNamed?, hj, Option.some_or], hsame.1.trans hkind, hsame.2⟩

/-- Where no corporation has the name for its key, only departments are found. -/
theorem key_eq_iff_of_no_corporation (hkeyed : Keyed forest)
    (hnone : ∀ i ∈ Tree.labels forest, i.kind = .corp → corpKey i.id ≠ name) {i : NodeInfo}
    (hi : i ∈ Tree.labels forest) : i.key = name ↔ i.kind = .dept ∧ deptKey i.id = name := by
  rw [hkeyed i hi]
  cases hkind : i.kind with
  | corp => simpa [nodeKey] using hnone i hi hkind
  | dept => simp [nodeKey]

theorem key_eq_deptKey_iff (hkeyed : Keyed forest) {i : NodeInfo} (hi : i ∈ Tree.labels forest) :
    i.key = deptKey name ↔ i.kind = .dept ∧ i.id = name := by
  rw [hkeyed i hi]
  exact @nodeKey_inj i.kind .dept i.id name

theorem nodeNamed?_eq_some_iff (hkeyed : Keyed forest)
    (hnone : ∀ i ∈ Tree.labels forest, i.kind = .corp → corpKey i.id ≠ name) {i : NodeInfo} :
    nodeNamed? (Tree.labels forest) name = some i ↔ DepartmentNamed (Tree.labels forest) name i := by
  have hkey : ∀ j ∈ Tree.labels forest, decide (j.key = name) = true ↔ j.kind = .dept ∧ deptKey j.id = name :=
    fun j hj => decide_eq_true_iff.trans (key_eq_iff_of_no_corporation hkeyed hnone hj)
  have hid : ∀ j ∈ Tree.labels forest, decide (j.key = deptKey name) = true ↔ j.kind = .dept ∧ j.id = name :=
    fun j hj => decide_eq_true_iff.trans (key_eq_deptKey_iff hkeyed hj)
  rw [nodeNamed?, Option.or_eq_some_iff, find?_eq_some_iff_isFirst hkey, find?_eq_some_iff_isFirst hid,
    List.find?_eq_none]
  constructor
  · rintro (h | ⟨hkeys, h⟩)
    · exact .byKey h
    · exact .byId (fun j hj hnamed => hkeys j hj ((hkey j hj).2 hnamed)) h
  · rintro (h | ⟨hkeys, h⟩)
    · exact .inl h
    · exact .inr ⟨fun j hj hnamed => hkeys j hj ((hkey j hj).1 hnamed), h⟩

theorem DepartmentNamed.mem {nodes : List NodeInfo} {i : NodeInfo} (h : DepartmentNamed nodes name i) :
    i ∈ nodes ∧ i.kind = .dept ∧ (deptKey i.id = name ∨ i.id = name) := by
  rcases h with ⟨⟨hkind, hkey⟩, before, after, rfl, -⟩ | ⟨-, ⟨hkind, hid⟩, before, after, rfl, -⟩
  · exact ⟨by simp, hkind, .inl hkey⟩
  · exact ⟨by simp, hkind, .inr hid⟩

theorem nodeNamed?_eq_none_iff (hkeyed : Keyed forest)
    (hnone : ∀ i ∈ Tree.labels forest, i.kind = .corp → corpKey i.id ≠ name) :
    nodeNamed? (Tree.labels forest) name = none ↔
      ¬ ∃ i ∈ Tree.labels forest, i.kind = .dept ∧ (deptKey i.id = name ∨ i.id = name) := by
  simp only [nodeNamed?, Option.or_eq_none_iff, List.find?_eq_none, decide_eq_true_eq]
  constructor
  · rintro ⟨hkeys, hids⟩ ⟨i, hi, hkind, hkey | hid⟩
    · exact hkeys i hi ((key_eq_iff_of_no_corporation hkeyed hnone hi).2 ⟨hkind, hkey⟩)
    · exact hids i hi ((key_eq_deptKey_iff hkeyed hi).2 ⟨hkind, hid⟩)
  · intro h
    refine ⟨fun i hi hkey => h ?_, fun i hi hkey => h ?_⟩
    · obtain ⟨hkind, hname⟩ := (key_eq_iff_of_no_corporation hkeyed hnone hi).1 hkey
      exact ⟨i, hi, hkind, .inl hname⟩
    · obtain ⟨hkind, hname⟩ := (key_eq_deptKey_iff hkeyed hi).1 hkey
      exact ⟨i, hi, hkind, .inr hname⟩

end

/-! ## Memberships -/

/-- What comes of a name: a corporation is refused; without one, the department that the name stands for
is taken, and if there is none nothing is found. -/
theorem inForest_cases {ε : Type} (forest : List RawNode) (name : String) (jobTitle : Option String) :
    let nodes := Tree.labels (buildForest forest)
    let result : Except (Failure ε) Membership := Membership.inForest (buildForest forest) name jobTitle
    (∃ id, NamesCorporation forest name id ∧ result = .error (.notADepartment id)) ∨
      (∀ id, ¬ NamesCorporation forest name id) ∧
        (result = .error (.nodeNotFound name) ∧ ¬ NamesDepartment forest name ∨
          ∃ i, result = .ok (i.membership jobTitle) ∧ NamesDepartment forest name ∧
            ∀ j, DepartmentNamed nodes name j ↔ j = i) := by
  intro nodes result
  have hkeyed := keyed_buildForest forest
  have hresult := inForest_eq (ε := ε) (buildForest forest) name jobTitle
  by_cases hcorp : ∃ id, NamesCorporation forest name id
  · obtain ⟨id, hnames⟩ := hcorp
    refine .inl ⟨id, hnames, ?_⟩
    obtain ⟨hname, i, hi, hkind, rfl⟩ := namesCorporation_iff.1 hnames
    obtain ⟨j, hj, hkind', hid⟩ := nodeNamed?_of_corporation hkeyed hi hkind hname
    rw [hj] at hresult
    rw [← hid]
    exact hresult.trans (if_pos (by simp [NodeInfo.isCorp, hkind']))
  · refine .inr ⟨fun id h => hcorp ⟨id, h⟩, ?_⟩
    have hnone : ∀ i ∈ nodes, i.kind = .corp → corpKey i.id ≠ name :=
      fun i hi hkind hname => hcorp ⟨i.id, namesCorporation_iff.2 ⟨hname, i, hi, hkind, rfl⟩⟩
    rw [namesDepartment_iff]
    cases hnamed : nodeNamed? nodes name with
    | none =>
      rw [hnamed] at hresult
      exact .inl ⟨hresult, (nodeNamed?_eq_none_iff hkeyed hnone).1 hnamed⟩
    | some i =>
      obtain ⟨hi, hkind, hname⟩ := ((nodeNamed?_eq_some_iff hkeyed hnone).1 hnamed).mem
      rw [hnamed] at hresult
      have hdept : i.isCorp ≠ true := by simp [NodeInfo.isCorp, hkind]
      refine .inr ⟨i, hresult.trans (if_neg hdept), ⟨i, hi, hkind, hname⟩, fun j => ?_⟩
      rw [← nodeNamed?_eq_some_iff hkeyed hnone, hnamed, Option.some.injEq, eq_comm]

/-- A membership is refused with the id of a corporation exactly if the name is the key of a corporation
with that id. Else it is had exactly if some department has the name for its key or its id, and then it is
the one in the department that the name stands for; and else nothing is found by the name. -/
theorem inForest_exact {ε : Type} (forest : List RawNode) (name : String) (jobTitle : Option String) :
    let nodes := Tree.labels (buildForest forest)
    let result : Except (Failure ε) Membership := Membership.inForest (buildForest forest) name jobTitle
    nodes.map (fun i => (i.kind, i.id)) = (Tree.labels forest).map (fun p => (p.kind, knownId p)) ∧
      (∀ id, result = .error (.notADepartment id) ↔ NamesCorporation forest name id) ∧
      ((∃ m, result = .ok m) ↔ (∀ id, ¬ NamesCorporation forest name id) ∧ NamesDepartment forest name) ∧
      (∀ m, result = .ok m ↔
        (∀ id, ¬ NamesCorporation forest name id) ∧ ∃ i, DepartmentNamed nodes name i ∧ m = i.membership jobTitle) ∧
      (result = .error (.nodeNotFound name) ↔
        (∀ id, ¬ NamesCorporation forest name id) ∧ ¬ NamesDepartment forest name) ∧
      ∀ m, result = .ok m → m.departmentId = name ∨ "dept_" ++ m.departmentId = name := by
  intro nodes result
  refine ⟨kinds_ids_buildForest forest, ?_⟩
  rcases inForest_cases (ε := ε) forest name jobTitle with
    ⟨id, hcorp, hresult⟩ | ⟨hnone, ⟨hresult, hdept⟩ | ⟨i, hresult, hdept, hnamed⟩⟩
  · have hsome : ¬ ∀ id, ¬ NamesCorporation forest name id := fun h => h id hcorp
    have hid : ∀ other, NamesCorporation forest name other ↔ id = other := by
      refine fun other => ⟨fun h => ?_, fun h => h ▸ hcorp⟩
      exact (String.append_right_inj "org_").1 (hcorp.1.trans h.1.symm)
    simp [result, hresult, hid]
  · have hnobody : ∀ j, ¬ DepartmentNamed nodes name j := fun j hj => hdept (namesDepartment_iff.2 ⟨j, hj.mem⟩)
    simp [result, hresult, hnone, hdept, hnobody]
  · have hok : ∀ m, result = .ok m ↔ m = i.membership jobTitle := by
      intro m
      rw [show result = .ok (i.membership jobTitle) from hresult, Except.ok.injEq, eq_comm]
    have herror : ∀ e, result ≠ .error e := by
      intro e he
      rw [show result = .ok (i.membership jobTitle) from hresult] at he
      cases he
    have hname : (i.membership jobTitle).departmentId = name ∨
        "dept_" ++ (i.membership jobTitle).departmentId = name := ((hnamed i).2 rfl).mem.2.2.symm
    have hchosen : ∀ m,
        (∃ j, DepartmentNamed nodes name j ∧ m = j.membership jobTitle) ↔ m = i.membership jobTitle := by
      intro m
      simp only [nodes, hnamed, exists_eq_left]
    simp [hok, herror, hnone, hdept, hchosen, hname]

/-- The name is the id of the first department and the key of the second, and beside that there is a
corporation with the id of the second. -/
theorem inForest_key_before_id :
    let forest := [(RawNode.corp "7" "Acme").withChildren [.dept "dept_7" "Sevens", .dept "7" "Ops"]]
    let result (name : String) : Except (Failure Empty) Membership :=
      Membership.inForest (buildForest forest) name (some "Lead")
    result "dept_7" = .ok ⟨"7", "Ops", "7", "Acme", some "Lead", false, some "Acme/Ops"⟩ ∧
      result "org_7" = .error (.notADepartment "7") ∧ result "8" = .error (.nodeNotFound "8") := by
  intro forest result
  obtain ⟨-, -, -, hfound, -⟩ := inForest_exact (ε := Empty) forest "dept_7" (some "Lead")
  obtain ⟨-, hrefused, -⟩ := inForest_exact (ε := Empty) forest "org_7" (some "Lead")
  obtain ⟨-, -, -, -, hnothing, -⟩ := inForest_exact (ε := Empty) forest "8" (some "Lead")
  have hnodes : Tree.labels (buildForest forest) = [
      ⟨"org_7", "7", none, "Acme", .corp, "7", "Acme", 0, "Acme", true⟩,
      ⟨"dept_dept_7", "dept_7", some "7", "Sevens", .dept, "7", "Acme", 1, "Acme/Sevens", false⟩,
      ⟨"dept_7", "7", some "7", "Ops", .dept, "7", "Acme", 1, "Acme/Ops", false⟩] := by decide +kernel
  have hdept : ∀ id, ¬ NamesCorporation forest "dept_7" id := by
    rintro id ⟨hkey, -⟩
    exact deptKey_ne_corpKey "7" id hkey.symm
  have hops : DepartmentNamed (Tree.labels (buildForest forest)) "dept_7"
      ⟨"dept_7", "7", some "7", "Ops", .dept, "7", "Acme", 1, "Acme/Ops", false⟩ := by
    rw [hnodes]
    exact .byKey ⟨by decide, [_, _], [], rfl, by decide⟩
  refine ⟨(hfound _).2 ⟨hdept, _, hops, rfl⟩, (hrefused "7").2 ⟨by decide, by decide⟩, hnothing.2 ⟨?_, ?_⟩⟩
  · rintro id ⟨hkey, -⟩
    have := congrArg String.toList hkey
    simp at this
  · unfold NamesDepartment
    decide

end OrgConsole
