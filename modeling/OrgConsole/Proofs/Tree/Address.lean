import Mathlib.Data.List.Nodup
import OrgConsole.Tree
/-!
# Addresses in a forest

An address says which root to take, then which of its children, and so on. It names one place even
where labels repeat. The lineage at an address is the node there and its ancestors, from the node up.
-/

namespace OrgConsole.Tree

variable {α : Type}

/-- The node at an address and its ancestors, from the node up to its root; nothing at the empty
address, which lies above the roots. -/
def lineage? : List (Tree α) → List Nat → Option (List (Tree α))
  | _, [] => some []
  | forest, i :: rest => forest[i]?.bind fun t => (lineage? t.children rest).map (· ++ [t])

theorem lineage?_cons_succ (t : Tree α) (forest : List (Tree α)) (i : Nat) (rest : List Nat) :
    lineage? (t :: forest) ((i + 1) :: rest) = lineage? forest (i :: rest) := by
  simp only [lineage?, List.getElem?_cons_succ]

theorem lineage?_cons_zero (t : Tree α) (forest : List (Tree α)) (rest : List Nat) :
    lineage? (t :: forest) (0 :: rest) = (lineage? t.children rest).map (· ++ [t]) := rfl

/-- A lineage has the length of its address. -/
theorem length_lineage? {forest : List (Tree α)} {address : List Nat} {lineage : List (Tree α)}
    (h : lineage? forest address = some lineage) : lineage.length = address.length := by
  induction address generalizing forest lineage with
  | nil =>
    obtain rfl := Option.some.inj h
    rfl
  | cons i below ih =>
    obtain ⟨t, -, ht⟩ := Option.bind_eq_some_iff.1 h
    obtain ⟨lineage, hlineage, rfl⟩ := Option.map_eq_some_iff.1 ht
    rw [List.length_append, List.length_cons, List.length_cons, ih hlineage]
    rfl

theorem lineage?_ne_nil (forest : List (Tree α)) (i : Nat) (below : List Nat) :
    lineage? forest (i :: below) ≠ some [] :=
  fun h => Nat.noConfusion (length_lineage? h)

/-- The ancestors of a node are the lineage at the address that its own one is an extension of. -/
theorem lineage?_of_concat {forest : List (Tree α)} {up : List Nat} {k : Nat} {t : Tree α} {above : List (Tree α)}
    (h : lineage? forest (up ++ [k]) = some (t :: above)) : lineage? forest up = some above := by
  induction up generalizing forest t above with
  | nil =>
    have hlength := length_lineage? h
    rw [List.length_cons] at hlength
    rw [List.length_eq_zero_iff.1 (Nat.succ.inj hlength)]
    rfl
  | cons i up ih =>
    obtain ⟨root, hroot, hbelow⟩ := Option.bind_eq_some_iff.1 h
    obtain ⟨lineage, hlineage, happend⟩ := Option.map_eq_some_iff.1 hbelow
    cases lineage with
    | nil => simpa using length_lineage? hlineage
    | cons n ups =>
      rw [List.cons_append, List.cons.injEq] at happend
      rw [lineage?, hroot, Option.bind_some, ih hlineage, Option.map_some, happend.2]

/-- Below a node the forest is that of its children. -/
theorem lineage?_append {forest : List (Tree α)} {address : List Nat} {t : Tree α} {above : List (Tree α)}
    (h : lineage? forest address = some (t :: above)) (below : List Nat) :
    lineage? forest (address ++ below) = (lineage? t.children below).map (· ++ t :: above) := by
  induction address generalizing forest t above with
  | nil => cases h
  | cons i rest ih =>
    obtain ⟨root, hroot, hrest⟩ := Option.bind_eq_some_iff.1 h
    obtain ⟨lineage, hlineage, happend⟩ := Option.map_eq_some_iff.1 hrest
    rw [List.cons_append, lineage?, hroot, Option.bind_some]
    cases lineage with
    | nil =>
      -- The node is a root.
      obtain rfl := List.length_eq_zero_iff.1 (length_lineage? hlineage).symm
      obtain ⟨rfl, rfl⟩ := List.cons.inj happend
      rfl
    | cons n ups =>
      rw [List.cons_append, List.cons.injEq] at happend
      rw [ih hlineage, Option.map_map, ← happend.1, ← happend.2]
      simp only [Function.comp_def, List.append_assoc, List.cons_append]

theorem allSubtrees_cons (t : Tree α) (rest : List (Tree α)) :
    allSubtrees (t :: rest) = t :: (allSubtrees t.children ++ allSubtrees rest) := by
  cases t
  rw [allSubtrees, subtrees, List.cons_append]

theorem labels_cons (t : Tree α) (rest : List (Tree α)) :
    labels (t :: rest) = t.label :: (labels t.children ++ labels rest) := by
  cases t
  simp [labels, allSubtrees, subtrees]

/-- A node and those below it are listed in the order that the forest lists them. -/
theorem labels_sublist_of_mem : ∀ {forest : List (Tree α)} {t : Tree α}, t ∈ allSubtrees forest →
    (labels [t]).Sublist (labels forest)
  | ⟨label, children⟩ :: rest, t, h => by
    rw [allSubtrees_cons, List.mem_cons, List.mem_append] at h
    rw [labels_cons _ rest]
    rcases h with rfl | h | h
    · rw [labels_cons]
      exact ((List.Sublist.refl _).append (List.nil_sublist _)).cons_cons label
    · exact ((labels_sublist_of_mem h).trans (List.sublist_append_left _ _)).cons label
    · exact ((labels_sublist_of_mem h).trans (List.sublist_append_right _ _)).cons label

/-- Every node of a forest has an address. -/
theorem exists_lineage : ∀ (forest : List (Tree α)) {t : Tree α}, t ∈ allSubtrees forest →
    ∃ address above, lineage? forest address = some (t :: above)
  | ⟨label, children⟩ :: rest, t, h => by
    simp only [allSubtrees, subtrees, List.cons_append, List.mem_cons, List.mem_append] at h
    rcases h with rfl | h | h
    · exact ⟨[0], [], rfl⟩
    · obtain ⟨address, above, ha⟩ := exists_lineage children h
      refine ⟨0 :: address, above ++ [⟨label, children⟩], ?_⟩
      rw [lineage?_cons_zero, ha]
      rfl
    · obtain ⟨address, above, ha⟩ := exists_lineage rest h
      cases address with
      | nil => cases ha
      | cons i address => exact ⟨(i + 1) :: address, above, (lineage?_cons_succ _ _ _ _).trans ha⟩

/-! ## Depth -/

mutual

/-- How many nodes stand on the longest way down a tree. -/
def depthOf : Tree α → Nat
  | ⟨_, children⟩ => 1 + depth children

/-- How many nodes stand on the longest way down from a root. -/
def depth : List (Tree α) → Nat
  | [] => 0
  | t :: rest => max t.depthOf (depth rest)

end

theorem length_le_depth : ∀ {forest : List (Tree α)} {address : List Nat} {lineage : List (Tree α)},
    lineage? forest address = some lineage → address.length ≤ depth forest
  | _, [], _, _ => Nat.zero_le _
  | [], i :: below, lineage, h => by
    rw [lineage?, List.getElem?_nil] at h
    cases h
  | ⟨label, children⟩ :: rest, 0 :: below, lineage, h => by
    rw [lineage?_cons_zero] at h
    obtain ⟨lineage, hchildren, -⟩ := Option.map_eq_some_iff.1 h
    have hbelow : below.length ≤ depth children := length_le_depth hchildren
    simp only [depth, depthOf, List.length_cons]
    omega
  | ⟨label, children⟩ :: rest, (i + 1) :: below, lineage, h => by
    rw [lineage?_cons_succ] at h
    have hbeside : (i :: below).length ≤ depth rest := length_le_depth h
    exact Nat.le_trans hbeside (Nat.le_max_right _ _)

/-! ## All addresses -/

/-- The address of a node among one root more, which stands before the others. -/
def besideFirst (address : List Nat) : List Nat :=
  address.modifyHead (· + 1)

mutual

/-- Where the nodes of a tree are, seen from its root, in pre-order. -/
def addressesIn : Tree α → List (List Nat)
  | ⟨_, children⟩ => [] :: addresses children

/-- The addresses of all nodes, in pre-order. -/
def addresses : List (Tree α) → List (List Nat)
  | [] => []
  | t :: rest => (addressesIn t).map (0 :: ·) ++ (addresses rest).map besideFirst

end

theorem addresses_cons (t : Tree α) (rest : List (Tree α)) :
    addresses (t :: rest) = [0] :: ((addresses t.children).map (0 :: ·) ++ (addresses rest).map besideFirst) := by
  cases t
  rw [addresses, addressesIn, List.map_cons, List.cons_append]

/-- The empty address lies above the roots. -/
theorem exists_cons_of_mem_addresses {forest : List (Tree α)} {address : List Nat} (h : address ∈ addresses forest) :
    ∃ i below, address = i :: below := by
  induction forest generalizing address with
  | nil =>
    rw [addresses] at h
    cases h
  | cons t rest ih =>
    rw [addresses, List.mem_append, List.mem_map, List.mem_map] at h
    rcases h with ⟨below, -, rfl⟩ | ⟨other, hother, rfl⟩
    · exact ⟨0, below, rfl⟩
    · obtain ⟨i, below, rfl⟩ := ih hother
      exact ⟨i + 1, below, rfl⟩

theorem length_addresses : ∀ forest : List (Tree α), (addresses forest).length = sizes forest
  | [] => rfl
  | ⟨_, children⟩ :: rest => by
    simp only [addresses, addressesIn, sizes, size, List.length_cons, List.length_append, List.length_map,
      length_addresses children, length_addresses rest]
    omega

theorem besideFirst_injective : Function.Injective besideFirst := by
  rintro (_ | ⟨i, below⟩) (_ | ⟨j, below'⟩) h <;> simp_all [besideFirst]

theorem nil_not_mem_addresses (forest : List (Tree α)) : [] ∉ addresses forest := by
  intro h
  obtain ⟨i, below, hcons⟩ := exists_cons_of_mem_addresses h
  cases hcons

theorem zero_cons_mem_addresses {t : Tree α} {rest : List (Tree α)} {below : List Nat} :
    0 :: below ∈ addresses (t :: rest) ↔ below = [] ∨ below ∈ addresses t.children := by
  have hbeside : 0 :: below ∉ (addresses rest).map besideFirst := by
    intro h
    obtain ⟨other, hother, heq⟩ := List.mem_map.1 h
    obtain ⟨i, below', rfl⟩ := exists_cons_of_mem_addresses hother
    cases heq
  rw [addresses_cons, List.mem_cons, List.mem_append, or_iff_left hbeside]
  simp

theorem succ_cons_mem_addresses {t : Tree α} {rest : List (Tree α)} {i : Nat} {below : List Nat} :
    (i + 1) :: below ∈ addresses (t :: rest) ↔ i :: below ∈ addresses rest := by
  have hbeside : besideFirst (i :: below) ∈ (addresses rest).map besideFirst ↔ i :: below ∈ addresses rest :=
    List.mem_map_of_injective besideFirst_injective
  rw [besideFirst, List.modifyHead_cons] at hbeside
  rw [addresses_cons, List.mem_cons, List.mem_append, hbeside]
  simp

theorem mem_addresses_iff_isSome {forest : List (Tree α)} {address : List Nat} :
    address ∈ addresses forest ↔ address ≠ [] ∧ (lineage? forest address).isSome := by
  induction address generalizing forest with
  | nil => exact iff_of_false (nil_not_mem_addresses forest) fun h => h.1 rfl
  | cons i below ih =>
    rw [and_iff_right (List.cons_ne_nil i below)]
    induction forest generalizing i with
    | nil => simp [addresses, lineage?]
    | cons t rest ihrest =>
      cases i with
      | zero =>
        rw [zero_cons_mem_addresses, ih, lineage?_cons_zero, Option.isSome_map]
        by_cases hbelow : below = []
        · simp [hbelow, lineage?]
        · simp [hbelow]
      | succ i => rw [succ_cons_mem_addresses, lineage?_cons_succ, ihrest]

/-- The addresses are the places where the forest has nodes. -/
theorem mem_addresses_iff {forest : List (Tree α)} {address : List Nat} :
    address ∈ addresses forest ↔ ∃ t above, lineage? forest address = some (t :: above) := by
  rw [mem_addresses_iff_isSome, Option.isSome_iff_exists]
  constructor
  · rintro ⟨hne, lineage, h⟩
    have hpos : 0 < lineage.length := length_lineage? h ▸ List.length_pos_of_ne_nil hne
    obtain ⟨t, above, rfl⟩ := List.exists_cons_of_length_pos hpos
    exact ⟨t, above, h⟩
  · rintro ⟨t, above, h⟩
    refine ⟨?_, _, h⟩
    rintro rfl
    cases h

/-- Choosing among the addresses means to choose among those of the first root's children and among those beside
it. -/
theorem filter_addresses_cons {t : Tree α} {rest : List (Tree α)} {keep keepBelow keepBeside : List Nat → Bool}
    (hbelow : ∀ i below, keep (0 :: i :: below) = keepBelow (i :: below))
    (hbeside : ∀ i below, keep (besideFirst (i :: below)) = keepBeside (i :: below)) :
    (addresses (t :: rest)).filter keep = (if keep [0] then [[0]] else []) ++
      (((addresses t.children).filter keepBelow).map (0 :: ·) ++ ((addresses rest).filter keepBeside).map besideFirst) := by
  have hchildren : (addresses t.children).filter (keep ∘ (0 :: ·)) = (addresses t.children).filter keepBelow := by
    refine List.filter_congr fun below h => ?_
    obtain ⟨i, below, rfl⟩ := exists_cons_of_mem_addresses h
    exact hbelow i below
  have hrest : (addresses rest).filter (keep ∘ besideFirst) = (addresses rest).filter keepBeside := by
    refine List.filter_congr fun other h => ?_
    obtain ⟨i, below, rfl⟩ := exists_cons_of_mem_addresses h
    exact hbeside i below
  rw [addresses_cons, List.filter_cons, List.filter_append, List.filter_map, List.filter_map, hchildren, hrest]
  split <;> rfl

/-! ## The order of addresses -/

theorem besideFirst_lt_besideFirst {a b : List Nat} (h : a < b) (ha : a ≠ []) : besideFirst a < besideFirst b := by
  obtain ⟨i, a, rfl⟩ := List.exists_cons_of_ne_nil ha
  cases b with
  | nil => cases h
  | cons j b =>
    rw [List.cons_lt_cons_iff] at h
    simpa [besideFirst, List.cons_lt_cons_iff] using h

/-- Addresses come in the order of lists of numbers: a node before those below it, and these before what
stands beside it on the right. -/
theorem pairwise_lt_addresses : ∀ forest : List (Tree α), (addresses forest).Pairwise (· < ·)
  | [] => .nil
  | ⟨_, children⟩ :: rest => by
    have hbelow : ((addresses children).map (0 :: ·)).Pairwise (· < ·) :=
      (pairwise_lt_addresses children).map _ fun _ _ => List.cons_lt_cons_self.2
    have hbeside : ((addresses rest).map besideFirst).Pairwise (· < ·) := by
      refine List.pairwise_map.2 ((pairwise_lt_addresses rest).imp_of_mem fun {a b} ha _ h => ?_)
      exact besideFirst_lt_besideFirst h fun hnil => nil_not_mem_addresses rest (hnil ▸ ha)
    -- Addresses below the first root begin with 0, and those beside it with a larger number.
    have hapart : ∀ below, ∀ address ∈ (addresses rest).map besideFirst, 0 :: below < address := by
      intro below address h
      obtain ⟨other, hother, rfl⟩ := List.mem_map.1 h
      obtain ⟨i, below', rfl⟩ := exists_cons_of_mem_addresses hother
      exact List.cons_lt_cons_iff.2 (.inl (Nat.succ_pos i))
    rw [addresses_cons, List.pairwise_cons, List.pairwise_append]
    refine ⟨fun address h => ?_, hbelow, hbeside, fun first hfirst => ?_⟩
    · rcases List.mem_append.1 h with hmem | hmem
      · obtain ⟨below, hchild, rfl⟩ := List.mem_map.1 hmem
        obtain ⟨i, below, rfl⟩ := exists_cons_of_mem_addresses hchild
        exact List.cons_lt_cons_self.2 (List.nil_lt_cons i below)
      · exact hapart [] address hmem
    · obtain ⟨below, -, rfl⟩ := List.mem_map.1 hfirst
      exact hapart below

/-- No address is listed twice. -/
theorem nodup_addresses (forest : List (Tree α)) : (addresses forest).Nodup := by
  refine (pairwise_lt_addresses forest).imp fun {a b} h => ?_
  rintro rfl
  exact List.lt_irrefl a h

end OrgConsole.Tree
