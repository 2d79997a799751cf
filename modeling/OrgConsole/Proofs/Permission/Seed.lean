import Mathlib.Data.List.Nodup
import OrgConsole.Proofs.Permission.Leaves
/-!
# The selection that a template stands for

A template is refused exactly if two of its actions share an id. In any other the marks can be read
off the selection that they stand for. A template into which a selection was written stands for that
selection, whether ids are shared or not, because actions with one id then have one mark.
-/

namespace OrgConsole

/-! ## Repeated ids -/

theorem firstRepeat?_eq_none_iff {seen ids : List String} :
    firstRepeat? seen ids = none ↔ ids.Nodup ∧ ∀ id ∈ ids, id ∉ seen := by
  induction ids generalizing seen with
  | nil => simp [firstRepeat?]
  | cons id rest ih =>
    unfold firstRepeat?
    by_cases h : id ∈ seen
    · simp [h]
    · rw [if_neg h, ih, List.nodup_cons]
      constructor
      · rintro ⟨hnodup, hfresh⟩
        refine ⟨⟨fun hid => hfresh id hid List.mem_cons_self, hnodup⟩, ?_⟩
        rintro other (_ | ⟨_, hother⟩)
        · exact h
        · exact fun hseen => hfresh other hother (List.mem_cons_of_mem _ hseen)
      · rintro ⟨⟨hid, hnodup⟩, hfresh⟩
        refine ⟨hnodup, fun other hother hseen => ?_⟩
        rcases List.mem_cons.1 hseen with rfl | hseen
        · exact hid hother
        · exact hfresh other (List.mem_cons_of_mem _ hother) hseen

theorem checkUnique_eq_ok_iff {ε : Type} {groups : List PermissionGroup} :
    (checkUnique groups : Except (Failure ε) Unit) = .ok () ↔ (permissionIds groups).Nodup := by
  have hnodup := @firstRepeat?_eq_none_iff [] (permissionIds groups)
  simp only [List.not_mem_nil, not_false_eq_true, implies_true, and_true] at hnodup
  rw [← hnodup, checkUnique]
  cases firstRepeat? [] (permissionIds groups) <;> simp

/-- A template has a matrix exactly if no two of its actions share an id. -/
theorem ofGroups_eq_ok_iff {ε : Type} {groups : List PermissionGroup} {m : PermissionMatrix} :
    (PermissionMatrix.ofGroups groups : Except (Failure ε) PermissionMatrix) = .ok m ↔
      (permissionIds groups).Nodup ∧ m = ⟨groups, seedSelection groups⟩ := by
  rw [← @checkUnique_eq_ok_iff ε, PermissionMatrix.ofGroups]
  cases (checkUnique groups : Except (Failure ε) Unit) <;> simp [bind, Except.bind, pure, Except.pure, eq_comm]

theorem checkKnown_eq_ok_iff {ε : Type} {groups : List PermissionGroup} {ids : List String} :
    (checkKnown groups ids : Except (Failure ε) Unit) = .ok () ↔ ∀ id ∈ ids, id ∈ permissionIds groups := by
  have hnone : ids.find? (!(permissionIds groups).contains ·) = none ↔ ∀ id ∈ ids, id ∈ permissionIds groups := by
    simp [List.find?_eq_none]
  rw [← hnone, checkKnown]
  cases ids.find? (!(permissionIds groups).contains ·) <;> simp

/-- The first id that no action has is the one that is refused. -/
theorem checkKnown_eq_error {ε : Type} {groups : List PermissionGroup} {before after : List String} {id : String}
    (hbefore : ∀ known ∈ before, known ∈ permissionIds groups) (hid : id ∉ permissionIds groups) :
    (checkKnown groups (before ++ id :: after) : Except (Failure ε) Unit) = .error (.unknownPermission id) := by
  have hfirst : (before ++ id :: after).find? (!(permissionIds groups).contains ·) = some id := by
    rw [List.find?_append, List.find?_eq_none.2 (by simpa using hbefore), Option.none_or, List.find?_cons_of_pos]
    simpa using hid
  rw [checkKnown, hfirst]

/-! ## Selections from pairs -/

theorem isChecked_foldl_set {pairs : List (String × Bool)} {id : String} {checked : Bool} (s : Selection)
    (h : ∀ p ∈ pairs, p.1 = id → p.2 = checked) :
    (pairs.foldl (fun s p => s.set p.1 p.2) s).isChecked id =
      if id ∈ pairs.map (·.1) then checked else s.isChecked id := by
  induction pairs generalizing s with
  | nil => simp
  | cons p rest ih =>
    rw [List.foldl_cons, ih _ fun q hq => h q (List.mem_cons_of_mem _ hq), Selection.isChecked_set, List.map_cons]
    have hp := h p List.mem_cons_self
    by_cases hrest : id ∈ rest.map (·.1)
    · simp [hrest]
    · by_cases hid : p.1 = id
      · simp [hid, hp hid]
      · simp [hid, hrest, Ne.symm hid]

/-- Where all pairs with an id agree, the selection says what they say. -/
theorem isChecked_ofList {pairs : List (String × Bool)} {id : String} {checked : Bool}
    (h : ∀ p ∈ pairs, p.1 = id → p.2 = checked) (hid : id ∈ pairs.map (·.1)) :
    (Selection.ofList pairs).isChecked id = checked := by
  rw [Selection.ofList, isChecked_foldl_set _ h, if_pos hid]

/-! ## Seeds -/

variable {groups : List PermissionGroup}

/-- Where all actions with an id agree on being granted, the seed says what they say. -/
theorem isChecked_seedSelection {id : String} {checked : Bool}
    (h : ∀ l ∈ leaves groups, l.id = id → (l.action.mark == 1) = checked) (hid : id ∈ permissionIds groups) :
    (seedSelection groups).isChecked id = checked := by
  refine isChecked_ofList ?_ ?_
  · intro p hp
    obtain ⟨l, hl, rfl⟩ := List.mem_map.1 hp
    exact h l hl
  · rw [List.map_map]
    exact hid

theorem isChecked_seed_of_nodup (h : (permissionIds groups).Nodup) {l : Leaf} (hl : l ∈ leaves groups) :
    (seedSelection groups).isChecked l.id = (l.action.mark == 1) := by
  refine isChecked_seedSelection (fun other hother hid => ?_) (id_mem_permissionIds hl)
  rw [List.inj_on_of_nodup_map h hother hl hid]

/-- A template into which a selection was written stands for that selection. -/
theorem sameChecks_seed_rebuild (groups : List PermissionGroup) (s : Selection) :
    SameChecks groups (seedSelection (rebuild groups s)) s := by
  intro id hid
  -- Actions that share the id were all given one mark, so it does not matter which of them comes last.
  rw [← permissionIds_rebuild groups s] at hid
  refine (isChecked_seedSelection (fun l hl hl_id => ?_) hid).symm
  rw [leaves_rebuild] at hl
  obtain ⟨l, -, rfl⟩ := List.mem_map.1 hl
  subst hl_id
  rw [PermissionAction.remark]
  cases s.isChecked l.id <;> rfl

/-! ## Granted actions -/

/-- The ids of the actions that a template grants. -/
def grantedIds (groups : List PermissionGroup) : List String :=
  ((leaves groups).filter (·.action.mark = 1)).map (·.id)

/-- What a template grants is what its seed checks. -/
theorem mem_grantedIds (h : (permissionIds groups).Nodup) {id : String} :
    id ∈ grantedIds groups ↔ id ∈ permissionIds groups ∧ (seedSelection groups).isChecked id = true := by
  constructor
  · intro hid
    obtain ⟨l, hl, rfl⟩ := List.mem_map.1 hid
    obtain ⟨hl, hmark⟩ := List.mem_filter.1 hl
    refine ⟨id_mem_permissionIds hl, ?_⟩
    rw [isChecked_seed_of_nodup h hl]
    simpa using hmark
  · rintro ⟨hid, hchecked⟩
    obtain ⟨l, hl, rfl⟩ := List.mem_map.1 hid
    rw [isChecked_seed_of_nodup h hl] at hchecked
    exact List.mem_map_of_mem (List.mem_filter.2 ⟨hl, by simpa using hchecked⟩)

/-- A template into which a selection was written grants what the selection checks. -/
theorem mem_grantedIds_rebuild (h : (permissionIds groups).Nodup) (s : Selection) {id : String} :
    id ∈ grantedIds (rebuild groups s) ↔ id ∈ permissionIds groups ∧ s.isChecked id = true := by
  rw [mem_grantedIds (permissionIds_rebuild groups s ▸ h), permissionIds_rebuild]
  refine and_congr_right fun hid => ?_
  rw [sameChecks_seed_rebuild groups s id hid]

/-- Writing a selection back grants what it adds, on top of what was granted, and takes away what it
revokes. -/
theorem mem_grantedIds_rebuild_iff_change (h : (permissionIds groups).Nodup) (s : Selection) {id : String} :
    let change := changeBetween groups (seedSelection groups) s
    id ∈ grantedIds (rebuild groups s) ↔
      (id ∈ grantedIds groups ∨ id ∈ change.granted) ∧ id ∉ change.revoked := by
  simp only [mem_grantedIds_rebuild h s, mem_grantedIds h, changeBetween, List.mem_filter, Bool.and_eq_true,
    Bool.not_eq_true']
  cases s.isChecked id <;> cases (seedSelection groups).isChecked id <;> simp

end OrgConsole
