import OrgConsole.Proofs.Forest.InSight
/-!
# Rows in pre-order

Which nodes have a row is a matter of places, since keys may repeat: a place is in sight if every node above it
is open. The rows show these places, each once and in pre-order. More open nodes bring more places into sight and
take none away, so the rows become more and keep their order.
-/

namespace OrgConsole.Forest

variable {keys keys' : KeySet} {forest : List OrgNode} {address : List Nat}

theorem mem_rowAddresses_iff : address ∈ rowAddresses keys forest ↔
    ∃ n above, Tree.lineage? forest address = some (n :: above) ∧ ∀ a ∈ above, keys.contains a.label.key = true := by
  rw [rowAddresses, List.mem_filter, Tree.mem_addresses_iff]
  constructor
  · rintro ⟨⟨n, above, hlineage⟩, hsight⟩
    rw [inSight, hlineage] at hsight
    exact ⟨n, above, hlineage, List.all_eq_true.1 hsight⟩
  · rintro ⟨n, above, hlineage, hopen⟩
    rw [inSight, hlineage]
    exact ⟨⟨n, above, rfl⟩, List.all_eq_true.2 hopen⟩

theorem pairwise_lt_rowAddresses (keys : KeySet) (forest : List OrgNode) :
    (rowAddresses keys forest).Pairwise (· < ·) :=
  (Tree.pairwise_lt_addresses forest).filter _

/-! ## More open nodes -/

/-- A node in sight stays in sight. -/
theorem inSight_of_subset (hkeys : ∀ key, keys.contains key = true → keys'.contains key = true)
    (h : inSight keys forest address = true) : inSight keys' forest address = true := by
  unfold inSight at h ⊢
  split at h
  · rw [List.all_eq_true] at h ⊢
    exact fun a ha => hkeys _ (h a ha)
  · cases h

theorem rowAddresses_sublist (hkeys : ∀ key, keys.contains key = true → keys'.contains key = true)
    (forest : List OrgNode) : (rowAddresses keys forest).Sublist (rowAddresses keys' forest) :=
  List.monotone_filter_right _ fun _ => inSight_of_subset hkeys

/-- Which node a row shows does not depend on what is open. -/
theorem map_node_rowAt? (keys : KeySet) (forest : List OrgNode) (address : List Nat) :
    (rowAt? keys forest address).map (·.node) = (Tree.lineage? forest address).bind List.head? := by
  unfold rowAt?
  match Tree.lineage? forest address with
  | none => rfl
  | some [] => rfl
  | some (n :: above) => rfl

theorem nodes_rows_eq (keys : KeySet) (forest : List OrgNode) :
    (rows keys forest).map (·.node) =
      (rowAddresses keys forest).filterMap fun address => (Tree.lineage? forest address).bind List.head? := by
  rw [rows_eq, List.map_filterMap]
  exact List.filterMap_congr fun address _ => map_node_rowAt? keys forest address

/-! ## The rows -/

/-- The rows show the places whose ancestors are all open, each of them once and in pre-order, which is the order
of addresses as lists of numbers. A row is marked as open if the node's own key is expanded. With more keys
expanded the same nodes are there in the same order, and more between them. -/
theorem rows_exact (keys : KeySet) (forest : List OrgNode) :
    (∀ address, address ∈ rowAddresses keys forest ↔ ∃ n above,
        Tree.lineage? forest address = some (n :: above) ∧ ∀ a ∈ above, keys.contains a.label.key = true) ∧
      (rowAddresses keys forest).Pairwise (· < ·) ∧
      (rows keys forest).map some = (rowAddresses keys forest).map (rowAt? keys forest) ∧
      ∀ keys', (∀ key, keys.contains key = true → keys'.contains key = true) →
        (rowAddresses keys forest).Sublist (rowAddresses keys' forest) ∧
        ((rows keys forest).map (·.node)).Sublist ((rows keys' forest).map (·.node)) := by
  refine ⟨fun address => mem_rowAddresses_iff, pairwise_lt_rowAddresses keys forest, map_some_rows keys forest,
    fun keys' hkeys => ?_⟩
  have hplaces := rowAddresses_sublist hkeys forest
  refine ⟨hplaces, ?_⟩
  rw [nodes_rows_eq, nodes_rows_eq]
  exact hplaces.filterMap _

/-- Two departments share a key that is expanded, and one of them lies below a closed one. Expanding that one
shows it and what is below it. -/
theorem rows_exact_with_shared_key :
    let eng := (RawNode.dept "d1" "Eng").withChildren [.dept "d2" "Data"]
    let field := (RawNode.dept "d1" "Field").withChildren [.dept "d4" "North"]
    let sales := (RawNode.dept "d3" "Sales").withChildren [field]
    let forest := buildForest [(RawNode.corp "c1" "Acme").withChildren [eng, sales, .dept "d5" "Legal"]]
    let keys : KeySet := .ofList ["org_c1", "dept_d1", "dept_d2", "dept_gone"]
    let more := keys.insert "dept_d3"
    (∀ key, keys.contains key = true → more.contains key = true) ∧
      (rows keys forest).map (fun r => (r.node.label.title, r.expanded)) =
        [("Acme", true), ("Eng", true), ("Data", true), ("Sales", false), ("Legal", false)] ∧
      [0, 1, 0] ∉ rowAddresses keys forest ∧ [0, 1, 0] ∈ rowAddresses more forest ∧
      ((rows keys forest).map (·.node)).Sublist ((rows more forest).map (·.node)) := by
  intro eng field sales forest keys more
  have hmore : ∀ key, keys.contains key = true → more.contains key = true := by
    intro key hkey
    rw [Std.TreeSet.contains_insert, hkey, Bool.or_true]
  obtain ⟨hexact, -, -, hgrows⟩ := rows_exact keys forest
  have hclosed : ¬ ∃ n above, Tree.lineage? forest [0, 1, 0] = some (n :: above) ∧
      ∀ a ∈ above, keys.contains a.label.key = true := by
    rintro ⟨n, above, hlineage, hopen⟩
    obtain ⟨-, rfl⟩ := List.cons.inj (Option.some.inj hlineage)
    have hsales := hopen _ List.mem_cons_self
    revert hsales
    decide +kernel
  exact ⟨hmore, by decide +kernel, mt (hexact _).1 hclosed, by decide +kernel, (hgrows more hmore).2⟩

end OrgConsole.Forest
