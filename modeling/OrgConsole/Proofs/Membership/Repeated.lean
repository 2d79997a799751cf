import OrgConsole.Proofs.Membership.Primary
/-!
# An edit made twice

The second time an edit finds what it left the first time, reconciled. Then there is nothing more to load, to add, to
remove or to retitle, and the flags that it sets are those that it set before. That does not depend on the list that
the first edit started from, which may have several primary memberships, or departments that are listed twice.
-/

namespace OrgConsole

variable {ms : List Membership} {d : String} {title : Option String}

/-! ## What reconciling keeps -/

theorem isMember_reconcile (ms : List Membership) (d : String) : isMember (reconcile ms) d = isMember ms d := by
  rw [Bool.eq_iff_iff, isMember_iff, isMember_iff, map_reconcile flagBlind_departmentId]

/-- The first membership of a kind is found at the same place after reconciling, with all but its flag. -/
theorem find?_reconcile {α : Type} {kind : Membership → Bool} {f : Membership → α} (hkind : FlagBlind kind)
    (hf : FlagBlind f) (ms : List Membership) : ((reconcile ms).find? kind).map f = (ms.find? kind).map f := by
  have hfound : ∀ list : List Membership,
      (list.find? kind).map f = ((list.map fun m => (kind m, f m)).find? (·.1)).map (·.2) := by
    intro list
    rw [List.find?_map, Option.map_map]
    rfl
  have hboth : FlagBlind fun m => (kind m, f m) := fun m b => Prod.ext (hkind m b) (hf m b)
  rw [hfound, hfound, map_reconcile hboth]

/-! ## Titles -/

theorem retitle_eq_self (h : ∀ m ∈ ms.find? (·.departmentId = d), m.jobTitle = title) : retitle d title ms = ms := by
  induction ms with
  | nil => rfl
  | cons m rest ih =>
    unfold retitle
    by_cases hd : m.departmentId = d
    · have hm : m.jobTitle = title := h m (by simp [hd])
      rw [if_pos hd, ← hm]
    · rw [if_neg hd, ih fun n hn => h n (by simpa [hd] using hn)]

theorem jobTitle_of_find?_retitle (ms : List Membership) :
    ∀ m ∈ (retitle d title ms).find? (·.departmentId = d), m.jobTitle = title := by
  induction ms with
  | nil => simp [retitle]
  | cons m rest ih =>
    unfold retitle
    by_cases hd : m.departmentId = d
    · simp [hd]
    · simpa [hd] using ih

theorem retitle_reconcile_retitle (ms : List Membership) :
    retitle d title (reconcile (retitle d title ms)) = reconcile (retitle d title ms) := by
  refine retitle_eq_self fun m hm => ?_
  have htitles : ((reconcile (retitle d title ms)).find? (·.departmentId = d)).map (·.jobTitle) =
      ((retitle d title ms).find? (·.departmentId = d)).map (·.jobTitle) :=
    find?_reconcile (fun _ _ => rfl) (fun _ _ => rfl) _
  obtain ⟨n, hn, htitle⟩ := Option.map_eq_some_iff.1 (htitles.symm.trans (congrArg _ hm))
  exact htitle.symm.trans (jobTitle_of_find?_retitle ms n hn)

/-! ## Twice is once -/

theorem edited_setPrimary_of_member (h : isMember ms d = true) :
    MembershipEdit.edited ms (.setPrimary d) = ms.map fun m => m.flagged (m.departmentId = d) :=
  if_pos h

theorem edited_setPrimary_of_stranger (h : ¬ isMember ms d = true) : MembershipEdit.edited ms (.setPrimary d) = ms :=
  if_neg h

/-- Edited again, a list is as it was after the first edit, either before it was reconciled or after. -/
theorem edited_reconcile_edited (edit : MembershipEdit) (ms : List Membership) :
    edit.edited (reconcile (edit.edited ms)) = edit.edited ms ∨
      edit.edited (reconcile (edit.edited ms)) = reconcile (edit.edited ms) := by
  cases edit with
  | load list => exact .inl rfl
  | add m =>
    have hmember : isMember (MembershipEdit.edited ms (.add m)) m.departmentId = true := by
      simp only [MembershipEdit.edited]
      split
      · assumption
      · simp [isMember]
    refine .inr (if_pos ?_)
    rw [isMember_reconcile, hmember]
  | remove d =>
    refine .inr (List.filter_eq_self.2 fun m hm => ?_)
    -- Reconciling brings no department back.
    have hd : m.departmentId ∈ (ms.filter (·.departmentId ≠ d)).map (·.departmentId) := by
      rw [← map_reconcile flagBlind_departmentId]
      exact List.mem_map_of_mem hm
    obtain ⟨n, hn, hid⟩ := List.mem_map.1 hd
    rw [← hid]
    exact (List.mem_filter.1 hn).2
  | setPrimary d =>
    by_cases hmember : isMember ms d = true
    · have hflags : FlagBlind fun m : Membership => m.flagged (m.departmentId = d) := fun _ _ => rfl
      have hagain : isMember (reconcile (ms.map fun m => m.flagged (m.departmentId = d))) d = true := by
        rw [isMember_reconcile, isMember_iff, map_flagged flagBlind_departmentId]
        exact isMember_iff.1 hmember
      refine .inl ?_
      rw [edited_setPrimary_of_member hmember, edited_setPrimary_of_member hagain, map_reconcile hflags,
        map_flagged hflags]
    · have hagain : ¬ isMember (reconcile ms) d = true := by rwa [isMember_reconcile]
      refine .inr ?_
      rw [edited_setPrimary_of_stranger hmember, edited_setPrimary_of_stranger hagain]
  | setJobTitle d title => exact .inr (retitle_reconcile_retitle ms)

/-- An edit made twice in a row leaves what it leaves the first time. -/
theorem apply_apply (edit : MembershipEdit) (ms : List Membership) : edit.apply (edit.apply ms) = edit.apply ms := by
  unfold MembershipEdit.apply
  rcases edited_reconcile_edited edit ms with hedited | hreconciled
  · rw [hedited]
  · rw [hreconciled, reconcile_eq_self (reconciled_reconcile _)]

end OrgConsole
