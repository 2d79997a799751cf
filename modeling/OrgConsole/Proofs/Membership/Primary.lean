import OrgConsole.Membership.Edit
/-!
# One primary membership

Reconciling keeps everything of a list but the flags, and leaves exactly one of them set unless the
list is empty. Every edit ends by reconciling, so the flags of the list that an edit starts from do
not matter. Departments that are listed once stay so, because no edit but a load brings in a
department that is listed already.
-/

namespace OrgConsole

/-- The list is empty or has exactly one primary membership. -/
def Reconciled (ms : List Membership) : Prop :=
  ms = [] ∨ ms.countP (·.isPrimary) = 1

/-- No department is listed twice. -/
def DistinctDepartments (ms : List Membership) : Prop :=
  (ms.map (·.departmentId)).Nodup

/-! ## Flags -/

@[simp] theorem flagged_isPrimary (m : Membership) (b : Bool) : (m.flagged b).isPrimary = b := rfl

@[simp] theorem flagged_departmentId (m : Membership) (b : Bool) : (m.flagged b).departmentId = m.departmentId := rfl

/-- All but the flag of a membership. -/
def FlagBlind {α : Type} (f : Membership → α) : Prop :=
  ∀ m b, f (m.flagged b) = f m

theorem map_flagged {α : Type} {f : Membership → α} (hf : FlagBlind f) (g : Membership → Bool)
    (ms : List Membership) : (ms.map fun m => m.flagged (g m)).map f = ms.map f := by
  rw [List.map_map]
  exact List.map_congr_left fun m _ => hf m (g m)

theorem countP_demoted (ms : List Membership) : (ms.map (·.flagged false)).countP (·.isPrimary) = 0 := by
  rw [List.countP_eq_zero]
  intro m hm
  obtain ⟨n, -, rfl⟩ := List.mem_map.1 hm
  simp

/-! ## Reconciling -/

theorem countP_keepFirstPrimary {ms : List Membership} (h : ms.any (·.isPrimary)) :
    (keepFirstPrimary ms).countP (·.isPrimary) = 1 := by
  induction ms with
  | nil => cases h
  | cons m rest ih =>
    unfold keepFirstPrimary
    split
    · rename_i hm
      rw [List.countP_cons_of_pos hm, countP_demoted]
    · rename_i hm
      rw [List.countP_cons_of_neg hm]
      exact ih (by simpa [hm] using h)

theorem map_keepFirstPrimary {α : Type} {f : Membership → α} (hf : FlagBlind f) (ms : List Membership) :
    (keepFirstPrimary ms).map f = ms.map f := by
  induction ms with
  | nil => rfl
  | cons m rest ih =>
    unfold keepFirstPrimary
    split
    · rw [List.map_cons, List.map_cons, map_flagged hf]
    · rw [List.map_cons, List.map_cons, ih]

/-- Reconciling leaves exactly one primary membership. -/
theorem reconciled_reconcile (ms : List Membership) : Reconciled (reconcile ms) := by
  unfold reconcile
  split
  · rename_i h
    exact .inr (countP_keepFirstPrimary h)
  · rename_i h
    cases ms with
    | nil => exact .inl rfl
    | cons m rest =>
      refine .inr ?_
      simp only [List.any_cons, Bool.or_eq_true, not_or, Bool.not_eq_true] at h
      rw [List.countP_cons_of_pos (flagged_isPrimary m true), List.countP_eq_zero.2]
      intro n hn
      simpa using (List.any_eq_false.1 h.2) n hn

theorem keepFirstPrimary_eq_self {ms : List Membership} (h : ms.countP (·.isPrimary) ≤ 1) :
    keepFirstPrimary ms = ms := by
  induction ms with
  | nil => rfl
  | cons m rest ih =>
    unfold keepFirstPrimary
    split
    · rename_i hm
      rw [List.countP_cons_of_pos hm] at h
      have hzero : rest.countP (·.isPrimary) = 0 := Nat.le_zero.1 (Nat.le_of_succ_le_succ h)
      have hrest : ∀ n ∈ rest, n.flagged false = n := by
        intro n hn
        rw [Membership.flagged, ← Bool.eq_false_iff.2 (List.countP_eq_zero.1 hzero n hn)]
      rw [List.map_congr_left hrest, List.map_id']
    · rename_i hm
      rw [List.countP_cons_of_neg hm] at h
      rw [ih h]

/-- A list with one primary membership needs no reconciling. -/
theorem reconcile_eq_self {ms : List Membership} (h : Reconciled ms) : reconcile ms = ms := by
  rcases h with rfl | h
  · rfl
  · have hpos : 0 < ms.countP (·.isPrimary) := Nat.lt_of_lt_of_eq Nat.one_pos h.symm
    unfold reconcile
    rw [if_pos (List.any_eq_true.2 (List.countP_pos_iff.1 hpos)), keepFirstPrimary_eq_self (Nat.le_of_eq h)]

/-- Reconciling changes flags only. -/
theorem map_reconcile {α : Type} {f : Membership → α} (hf : FlagBlind f) (ms : List Membership) :
    (reconcile ms).map f = ms.map f := by
  unfold reconcile
  split
  · exact map_keepFirstPrimary hf ms
  · cases ms with
    | nil => rfl
    | cons m rest => rw [List.map_cons, List.map_cons, hf]

theorem flagBlind_departmentId : FlagBlind (·.departmentId) := fun _ _ => rfl

theorem distinctDepartments_reconcile {ms : List Membership} (h : DistinctDepartments ms) :
    DistinctDepartments (reconcile ms) := by
  unfold DistinctDepartments
  rw [map_reconcile flagBlind_departmentId]
  exact h

/-! ## One edit -/

theorem isMember_iff {ms : List Membership} {d : String} :
    isMember ms d = true ↔ d ∈ ms.map (·.departmentId) := by
  simp [isMember]

theorem map_departmentId_retitle (d : String) (title : Option String) (ms : List Membership) :
    (retitle d title ms).map (·.departmentId) = ms.map (·.departmentId) := by
  induction ms with
  | nil => rfl
  | cons m rest ih =>
    unfold retitle
    split
    · rfl
    · rw [List.map_cons, List.map_cons, ih]

theorem distinctDepartments_append {ms : List Membership} {m : Membership} (h : DistinctDepartments ms)
    (hm : m.departmentId ∉ ms.map (·.departmentId)) : DistinctDepartments (ms ++ [m]) := by
  unfold DistinctDepartments
  rw [List.map_append, List.nodup_append]
  refine ⟨h, by simp, ?_⟩
  intro d hd d' hd'
  rw [List.map_singleton, List.mem_singleton] at hd'
  rintro rfl
  exact hm (hd' ▸ hd)

/-- An edit keeps departments distinct, unless it loads a list with a repeated one. -/
theorem distinctDepartments_edited {ms : List Membership} {edit : MembershipEdit} (h : DistinctDepartments ms)
    (hload : ∀ list, edit = .load list → DistinctDepartments list) : DistinctDepartments (edit.edited ms) := by
  cases edit with
  | load list => exact hload list rfl
  | add m =>
    simp only [MembershipEdit.edited]
    split
    · exact h
    · rename_i hm
      rw [isMember_iff] at hm
      split
      · refine distinctDepartments_append ?_ ?_
        · unfold DistinctDepartments
          rw [map_flagged flagBlind_departmentId]
          exact h
        · rw [map_flagged flagBlind_departmentId]
          exact hm
      · exact distinctDepartments_append h hm
  | remove d => exact h.sublist (List.filter_sublist.map _)
  | setPrimary d =>
    simp only [MembershipEdit.edited]
    split
    · unfold DistinctDepartments
      rw [map_flagged flagBlind_departmentId]
      exact h
    · exact h
  | setJobTitle d title =>
    unfold DistinctDepartments
    simp only [MembershipEdit.edited]
    rw [map_departmentId_retitle]
    exact h

theorem distinctDepartments_apply {ms : List Membership} {edit : MembershipEdit} (h : DistinctDepartments ms)
    (hload : ∀ list, edit = .load list → DistinctDepartments list) : DistinctDepartments (edit.apply ms) :=
  distinctDepartments_reconcile (distinctDepartments_edited h hload)

/-! ## Whole runs of edits -/

theorem applyEdits_concat (ms : List Membership) (edits : List MembershipEdit) (edit : MembershipEdit) :
    applyEdits ms (edits ++ [edit]) = edit.apply (applyEdits ms edits) := by
  simp [applyEdits]

theorem reconciled_applyEdits {ms : List Membership} {edits : List MembershipEdit} (h : edits ≠ []) :
    Reconciled (applyEdits ms edits) := by
  rw [← List.dropLast_concat_getLast h, applyEdits_concat]
  exact reconciled_reconcile _

theorem distinctDepartments_applyEdits {ms : List Membership} (hms : DistinctDepartments ms)
    (edits : List MembershipEdit) (hload : ∀ list, .load list ∈ edits → DistinctDepartments list) :
    DistinctDepartments (applyEdits ms edits) := by
  induction edits generalizing ms with
  | nil => exact hms
  | cons edit rest ih =>
    have hedit : DistinctDepartments (edit.apply ms) :=
      distinctDepartments_apply hms fun list h => hload list (by simp [h])
    exact ih hedit fun list h => hload list (List.mem_cons_of_mem _ h)

/-- After any edits to any list exactly one membership is primary, or there is none at all. And if
neither the list nor a list that is loaded has a department twice, then no list on the way has. -/
theorem edits_keep_one_primary (ms : List Membership) (edits : List MembershipEdit) (hne : edits ≠ []) :
    (applyEdits ms edits = [] ∨ (applyEdits ms edits).countP (·.isPrimary) = 1) ∧
      (DistinctDepartments ms → (∀ list, .load list ∈ edits → DistinctDepartments list) →
        ∀ before, before <+: edits → DistinctDepartments (applyEdits ms before)) := by
  refine ⟨reconciled_applyEdits hne, fun hms hload before hbefore => ?_⟩
  exact distinctDepartments_applyEdits hms before fun list h => hload list (hbefore.subset h)

/-- A department is joined as the primary one and left, then another list is loaded. -/
theorem one_primary_after_loading :
    let ms := [(Membership.of "1").flagged true, (Membership.of "2").flagged true]
    let edits := [.add ((Membership.of "3").flagged true), .remove "3", .load [.of "4", .of "5"]]
    edits ≠ [] ∧ DistinctDepartments ms ∧ (∀ list, .load list ∈ edits → DistinctDepartments list) ∧
      (applyEdits ms edits = [] ∨ (applyEdits ms edits).countP (·.isPrimary) = 1) ∧
      ∀ before, before <+: edits → DistinctDepartments (applyEdits ms before) := by
  intro ms edits
  have hne : edits ≠ [] := List.cons_ne_nil _ _
  have hms : DistinctDepartments ms := by simp [DistinctDepartments, ms, Membership.of]
  have hload : ∀ list, .load list ∈ edits → DistinctDepartments list := by
    intro list h
    simp only [edits, List.mem_cons, MembershipEdit.load.injEq, reduceCtorEq, List.not_mem_nil, or_false, false_or] at h
    subst h
    simp [DistinctDepartments, Membership.of]
  obtain ⟨hone, hdistinct⟩ := edits_keep_one_primary ms edits hne
  exact ⟨hne, hms, hload, hone, hdistinct hms hload⟩

end OrgConsole
