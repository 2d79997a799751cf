import Mathlib.Order.Monotone.Basic
import OrgConsole.Proofs.Tree.Address
/-!
# Pruning

Pruning decides bottom-up: a node stays if it satisfies the predicate or if something is left of its
children. Seen from one node that means that it stays if it or something below it satisfies the
predicate, however deep. `Restricts` says what pruning leaves: exactly those places of the forest, each
once, in order, and each hanging where it did.
-/

namespace OrgConsole.Tree

variable {α : Type}

/-! ## What stays -/

section

variable (p : α → Bool)

/-- The node or one below it satisfies `p`. -/
def hasHit (t : Tree α) : Bool :=
  p t.label || (labels t.children).any p

/-- The node at an address or one below it satisfies `p`. -/
def hasHitAt (forest : List (Tree α)) (address : List Nat) : Bool :=
  match lineage? forest address with
  | some (t :: _) => t.hasHit p
  | _ => false

theorem prune_eq_nil_iff : ∀ forest : List (Tree α), prune p forest = [] ↔ ∀ i ∈ labels forest, p i = false
  | [] => by simp [prune, labels, allSubtrees]
  | ⟨label, children⟩ :: rest => by
    have hchildren := prune_eq_nil_iff children
    have hrest := prune_eq_nil_iff rest
    rw [labels_cons, List.forall_mem_cons, List.forall_mem_append, ← hchildren, ← hrest, prune, prune?]
    by_cases hkept : prune p children = [] <;> cases p label <;> simp [hkept]

theorem hasHit_eq_false_iff (t : Tree α) : t.hasHit p = false ↔ prune p t.children = [] ∧ p t.label = false := by
  rw [prune_eq_nil_iff, hasHit, Bool.or_eq_false_iff, List.any_eq_false, and_comm]
  simp only [Bool.not_eq_true]

/-- One root after the other is kept, with what is left below it, or left out. -/
theorem prune_cons (t : Tree α) (rest : List (Tree α)) :
    prune p (t :: rest) = if t.hasHit p then ⟨t.label, prune p t.children⟩ :: prune p rest else prune p rest := by
  have hfalse := hasHit_eq_false_iff p t
  obtain ⟨label, children⟩ := t
  rw [prune, prune?]
  cases hhit : hasHit p ⟨label, children⟩ with
  | false => simp [hfalse.1 hhit]
  | true =>
    have hkept : ¬(prune p children = [] ∧ p label = false) := fun h => by simp [hfalse.2 h] at hhit
    simp [hkept]

/-- What is left satisfies the condition for staying, so nothing more goes. -/
theorem prune_prune : ∀ forest : List (Tree α), prune p (prune p forest) = prune p forest
  | [] => rfl
  | ⟨label, children⟩ :: rest => by
    have hchildren := prune_prune children
    have hrest := prune_prune rest
    rw [prune_cons]
    split
    · rename_i hhit
      have hstill : hasHit p ⟨label, prune p children⟩ = true := by
        rw [← Bool.not_eq_false, hasHit_eq_false_iff] at hhit ⊢
        rwa [hchildren]
      rw [prune_cons, if_pos hstill, hchildren, hrest]
    · exact hrest

/-- None of the labels that satisfy `p` goes. -/
theorem filter_labels_prune : ∀ forest : List (Tree α), (labels (prune p forest)).filter p = (labels forest).filter p
  | [] => rfl
  | ⟨label, children⟩ :: rest => by
    have hchildren := filter_labels_prune children
    have hrest := filter_labels_prune rest
    rw [prune_cons, labels_cons]
    split
    · rw [labels_cons, List.filter_cons, List.filter_cons, List.filter_append, List.filter_append, hchildren, hrest]
    · rename_i hhit
      rw [Bool.not_eq_true, hasHit_eq_false_iff] at hhit
      obtain ⟨hnone, hlabel⟩ : prune p children = [] ∧ p label = false := hhit
      rw [hnone] at hchildren
      rw [List.filter_cons_of_neg (by simp [hlabel]), List.filter_append, ← hchildren, hrest]
      rfl

/-! ## Where it comes from -/

mutual

/-- Where a node of what is left of a tree's children stands below that tree. -/
def originIn : Tree α → List Nat → List Nat
  | ⟨_, children⟩ => origin children

/-- Where a node of what is left of a forest stands in the forest. -/
def origin : List (Tree α) → List Nat → List Nat
  | [], address => address
  | _ :: _, [] => []
  | t :: rest, i :: below =>
    match t.hasHit p, i with
    | true, 0 => 0 :: originIn t below
    | true, i + 1 => besideFirst (origin rest (i :: below))
    | false, i => besideFirst (origin rest (i :: below))

end

end

section

variable {p : α → Bool} {t : Tree α} (rest : List (Tree α))

theorem origin_nil (forest : List (Tree α)) : origin p forest [] = [] := by
  cases forest <;> rw [origin]

theorem origin_zero (h : t.hasHit p = true) (below : List Nat) :
    origin p (t :: rest) (0 :: below) = 0 :: origin p t.children below := by
  cases t
  simp only [origin, h, originIn]

theorem origin_succ (h : t.hasHit p = true) (i : Nat) (below : List Nat) :
    origin p (t :: rest) ((i + 1) :: below) = besideFirst (origin p rest (i :: below)) := by
  simp only [origin, h]

theorem origin_of_not_hasHit (h : t.hasHit p = false) (i : Nat) (below : List Nat) :
    origin p (t :: rest) (i :: below) = besideFirst (origin p rest (i :: below)) := by
  simp only [origin, h]

theorem exists_cons_origin (forest : List (Tree α)) (i : Nat) (below : List Nat) :
    ∃ j below', origin p forest (i :: below) = j :: below' := by
  induction forest generalizing i with
  | nil => exact ⟨i, below, by rw [origin]⟩
  | cons t rest ih =>
    cases hhit : t.hasHit p with
    | true =>
      cases i with
      | zero => exact ⟨0, _, origin_zero rest hhit below⟩
      | succ i =>
        obtain ⟨j, below', h⟩ := ih i
        exact ⟨j + 1, below', by rw [origin_succ rest hhit, h, besideFirst, List.modifyHead_cons]⟩
    | false =>
      obtain ⟨j, below', h⟩ := ih i
      exact ⟨j + 1, below', by rw [origin_of_not_hasHit rest hhit, h, besideFirst, List.modifyHead_cons]⟩

/-- Past the first root an address leads where it would without that root. -/
theorem lineage?_besideFirst_origin (t : Tree α) (i : Nat) (below : List Nat) :
    lineage? (t :: rest) (besideFirst (origin p rest (i :: below))) = lineage? rest (origin p rest (i :: below)) := by
  obtain ⟨j, below', h⟩ := exists_cons_origin (p := p) rest i below
  rw [h, besideFirst, List.modifyHead_cons, lineage?_cons_succ]

/-- A place that is left shows what it showed, and so does every place above it. -/
theorem labels_lineage?_prune : ∀ (forest : List (Tree α)) (address : List Nat),
    (lineage? (prune p forest) address).map (·.map label) =
      (lineage? forest (origin p forest address)).map (·.map label)
  | forest, [] => by rw [origin_nil, lineage?, lineage?]
  | [], i :: below => by rw [origin, prune]
  | ⟨label, children⟩ :: rest, i :: below => by
    have hchildren := labels_lineage?_prune children below
    rw [prune_cons]
    cases hhit : hasHit p ⟨label, children⟩ with
    | true =>
      cases i with
      | zero =>
        rw [if_pos rfl, origin_zero rest hhit, lineage?_cons_zero, lineage?_cons_zero, Option.map_map, Option.map_map]
        have hroot := congrArg (Option.map (· ++ [label])) hchildren
        simpa [Option.map_map, Function.comp_def] using hroot
      | succ i =>
        rw [if_pos rfl, origin_succ rest hhit, lineage?_cons_succ, lineage?_besideFirst_origin]
        exact labels_lineage?_prune rest (i :: below)
    | false =>
      rw [if_neg Bool.false_ne_true, origin_of_not_hasHit rest hhit, lineage?_besideFirst_origin]
      exact labels_lineage?_prune rest (i :: below)

/-- What hangs below a place hung below the place it comes from, in the same order. -/
theorem origin_concat : ∀ (forest : List (Tree α)) (address : List Nat), ∃ f : Nat → Nat, StrictMono f ∧
    ∀ i, origin p forest (address ++ [i]) = origin p forest address ++ [f i]
  | [], address => ⟨id, strictMono_id, fun i => by rw [origin, origin]; rfl⟩
  | ⟨label, children⟩ :: rest, [] => by
    obtain ⟨f, hf, hrest⟩ := origin_concat rest []
    rw [origin_nil] at hrest ⊢
    cases hhit : hasHit p ⟨label, children⟩ with
    | true =>
      refine ⟨fun i => i.casesOn 0 fun i => f i + 1, strictMono_nat_of_lt_succ fun i => ?_, fun i => ?_⟩
      · cases i with
        | zero => exact Nat.succ_pos _
        | succ i => exact Nat.succ_lt_succ (hf (Nat.lt_succ_self i))
      · cases i with
        | zero => rw [List.nil_append, origin_zero rest hhit, origin_nil]; rfl
        | succ i => rw [List.nil_append, origin_succ rest hhit, ← List.nil_append [i], hrest i]; rfl
    | false =>
      refine ⟨fun i => f i + 1, fun i j h => Nat.succ_lt_succ (hf h), fun i => ?_⟩
      rw [List.nil_append, origin_of_not_hasHit rest hhit, ← List.nil_append [i], hrest i]
      rfl
  | ⟨label, children⟩ :: rest, i :: below => by
    -- Beside the first root the children are those of a place among the other roots.
    have hbeside : ∀ j, ∃ f : Nat → Nat, StrictMono f ∧ ∀ k,
        besideFirst (origin p rest (j :: (below ++ [k]))) = besideFirst (origin p rest (j :: below)) ++ [f k] := by
      intro j
      obtain ⟨f, hf, hrest⟩ := origin_concat rest (j :: below)
      obtain ⟨j', below', hj⟩ := exists_cons_origin (p := p) rest j below
      refine ⟨f, hf, fun k => ?_⟩
      rw [← List.cons_append, hrest k, hj]
      rfl
    cases hhit : hasHit p ⟨label, children⟩ with
    | true =>
      cases i with
      | zero =>
        obtain ⟨f, hf, hchildren⟩ := origin_concat children below
        refine ⟨f, hf, fun k => ?_⟩
        rw [List.cons_append, origin_zero rest hhit, origin_zero rest hhit]
        exact congrArg (0 :: ·) (hchildren k)
      | succ i =>
        simp only [List.cons_append, origin_succ rest hhit]
        exact hbeside i
    | false =>
      simp only [List.cons_append, origin_of_not_hasHit rest hhit]
      exact hbeside i

end

/-! ## What pruning leaves -/

theorem hasHitAt_below (p : α → Bool) (t : Tree α) (rest : List (Tree α)) (i : Nat) (below : List Nat) :
    hasHitAt p (t :: rest) (0 :: i :: below) = hasHitAt p t.children (i :: below) := by
  rw [hasHitAt, hasHitAt, lineage?_cons_zero]
  match h : lineage? t.children (i :: below) with
  | none => rfl
  | some [] => exact absurd h (lineage?_ne_nil t.children i below)
  | some (n :: above) => rfl

theorem hasHitAt_beside (p : α → Bool) (t : Tree α) (rest : List (Tree α)) (i : Nat) (below : List Nat) :
    hasHitAt p (t :: rest) (besideFirst (i :: below)) = hasHitAt p rest (i :: below) := by
  rw [hasHitAt, hasHitAt, besideFirst, List.modifyHead_cons, lineage?_cons_succ]

/-- Where nothing has a hit, no place has one at or below it. -/
theorem hasHitAt_eq_false {p : α → Bool} : ∀ {forest : List (Tree α)} {address : List Nat}, prune p forest = [] →
    address ∈ addresses forest → hasHitAt p forest address = false
  | ⟨label, children⟩ :: rest, address, hnone, hmem => by
    rw [prune_cons] at hnone
    split at hnone
    · cases hnone
    · rename_i hhit
      rw [Bool.not_eq_true] at hhit
      rw [addresses_cons, List.mem_cons, List.mem_append, List.mem_map, List.mem_map] at hmem
      rcases hmem with rfl | ⟨below, hbelow, rfl⟩ | ⟨other, hother, rfl⟩
      · exact hhit
      · have := hasHitAt_eq_false ((hasHit_eq_false_iff p _).1 hhit).1 hbelow
        obtain ⟨i, below, rfl⟩ := exists_cons_of_mem_addresses hbelow
        rwa [hasHitAt_below]
      · have := hasHitAt_eq_false hnone hother
        obtain ⟨i, below, rfl⟩ := exists_cons_of_mem_addresses hother
        rwa [hasHitAt_beside]

/-- The places with a hit at or below them, one root after the other. -/
theorem filter_hasHitAt_cons (p : α → Bool) (t : Tree α) (rest : List (Tree α)) :
    (addresses (t :: rest)).filter (hasHitAt p (t :: rest)) =
      (if t.hasHit p then [[0]] else []) ++
        (((addresses t.children).filter (hasHitAt p t.children)).map (0 :: ·) ++
          ((addresses rest).filter (hasHitAt p rest)).map besideFirst) :=
  filter_addresses_cons (hasHitAt_below p t rest) (hasHitAt_beside p t rest)

/-- In order, what is left comes from the places that have a hit at or below them. -/
theorem map_origin_addresses (p : α → Bool) : ∀ forest : List (Tree α),
    (addresses (prune p forest)).map (origin p forest) = (addresses forest).filter (hasHitAt p forest)
  | [] => rfl
  | ⟨label, children⟩ :: rest => by
    have hchildren := map_origin_addresses p children
    have hrest := map_origin_addresses p rest
    rw [filter_hasHitAt_cons, prune_cons]
    cases hhit : hasHit p ⟨label, children⟩ with
    | true =>
      have hbeside : ((addresses (prune p rest)).map fun other => origin p (⟨label, children⟩ :: rest) (besideFirst other)) =
          (addresses (prune p rest)).map fun other => besideFirst (origin p rest other) := by
        refine List.map_congr_left fun other h => ?_
        obtain ⟨i, below, rfl⟩ := exists_cons_of_mem_addresses h
        exact origin_succ rest hhit i below
      rw [if_pos rfl, if_pos rfl, addresses_cons, List.map_cons, List.map_append, List.map_map, List.map_map,
        ← hchildren, ← hrest, List.map_map, List.map_map]
      simp only [Function.comp_def, origin_zero rest hhit, origin_nil, hbeside, List.singleton_append]
    | false =>
      have hnone : (addresses children).filter (hasHitAt p children) = [] := by
        rw [List.filter_eq_nil_iff]
        intro address h
        rw [hasHitAt_eq_false ((hasHit_eq_false_iff p _).1 hhit).1 h]
        exact Bool.false_ne_true
      have hbeside : (addresses (prune p rest)).map (origin p (⟨label, children⟩ :: rest)) =
          (addresses (prune p rest)).map fun other => besideFirst (origin p rest other) := by
        refine List.map_congr_left fun other h => ?_
        obtain ⟨i, below, rfl⟩ := exists_cons_of_mem_addresses h
        exact origin_of_not_hasHit rest hhit i below
      rw [if_neg Bool.false_ne_true, if_neg Bool.false_ne_true, hbeside, hnone, ← hrest, List.map_map]
      rfl

/-- `part` is made of the places of `forest` that `keep` picks, and `origin` says where each comes from. -/
structure Restricts (part forest : List (Tree α)) (keep : List Nat → Bool) (origin : List Nat → List Nat) : Prop where
  /-- It has those places and no others, in order. -/
  places : (addresses part).map origin = (addresses forest).filter keep
  /-- It has none of them twice. -/
  once : ((addresses part).map origin).Nodup
  /-- A place and those above it have the labels of the places that they come from. -/
  labels : ∀ address, (lineage? part address).map (·.map label) = (lineage? forest (origin address)).map (·.map label)
  /-- A root comes from a root. -/
  above : origin [] = []
  /-- What hangs below a place hung below the place it comes from, in the same order. -/
  below : ∀ address, ∃ f : Nat → Nat, StrictMono f ∧ ∀ i, origin (address ++ [i]) = origin address ++ [f i]

theorem Restricts.sizes_eq {part forest : List (Tree α)} {keep : List Nat → Bool} {origin : List Nat → List Nat}
    (h : Restricts part forest keep origin) : sizes part = ((addresses forest).filter keep).length := by
  rw [← length_addresses, ← h.places, List.length_map]

theorem restricts_prune (p : α → Bool) (forest : List (Tree α)) :
    Restricts (prune p forest) forest (hasHitAt p forest) (origin p forest) where
  places := map_origin_addresses p forest
  once := map_origin_addresses p forest ▸ (nodup_addresses forest).filter _
  labels := labels_lineage?_prune forest
  above := origin_nil forest
  below := origin_concat forest

end OrgConsole.Tree
