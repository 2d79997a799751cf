import OrgConsole.Proofs.Membership.Pointer
/-!
# Edits do not look at flags

Which entries a list has after an edit, and in which order, does not depend on the flags before it. So
a list whose flags were lost on the way is edited like the one that has them.
-/

namespace OrgConsole

/-- The lists have the same memberships but for the flags. -/
def SameEntries (ms ms' : List Membership) : Prop :=
  ms'.map (·.entry) = ms.map (·.entry)

theorem sameEntries_reconcile (ms : List Membership) : SameEntries ms (reconcile ms) :=
  map_reconcile PointedList.flagBlind_entry ms

theorem sameEntries_flagged (g : Membership → Bool) (ms : List Membership) :
    SameEntries ms (ms.map fun m => m.flagged (g m)) :=
  map_flagged PointedList.flagBlind_entry g ms

variable {ms ms' : List Membership}

theorem SameEntries.trans {ms'' : List Membership} (h : SameEntries ms ms') (h' : SameEntries ms' ms'') :
    SameEntries ms ms'' :=
  Eq.trans h' h

theorem SameEntries.symm (h : SameEntries ms ms') : SameEntries ms' ms :=
  Eq.symm h

theorem SameEntries.isMember_eq (h : SameEntries ms ms') (d : String) : isMember ms' d = isMember ms d := by
  have hids : ms'.map (·.departmentId) = ms.map (·.departmentId) := by
    have := congrArg (List.map (·.departmentId)) h
    rwa [List.map_map, List.map_map] at this
  rw [Bool.eq_iff_iff, isMember_iff, isMember_iff, hids]

theorem SameEntries.append (h : SameEntries ms ms') (m : Membership) : SameEntries (ms ++ [m]) (ms' ++ [m]) := by
  unfold SameEntries
  rw [List.map_append, List.map_append, h]

theorem SameEntries.remove (h : SameEntries ms ms') (d : String) :
    SameEntries (ms.filter (·.departmentId ≠ d)) (ms'.filter (·.departmentId ≠ d)) := by
  have hmap : ∀ list : List Membership, (list.filter (·.departmentId ≠ d)).map (·.entry) =
      (list.map (·.entry)).filter (·.departmentId ≠ d) := by
    intro list
    rw [List.filter_map]
    rfl
  unfold SameEntries
  rw [hmap, hmap, h]

theorem SameEntries.retitle (h : SameEntries ms ms') (d : String) (title : Option String) :
    SameEntries (retitle d title ms) (retitle d title ms') := by
  induction ms generalizing ms' with
  | nil =>
    rw [List.map_eq_nil_iff.1 h]
    rfl
  | cons m rest ih =>
    obtain ⟨m', rest', rfl, hm, hrest⟩ := List.map_eq_cons_iff.1 h
    have hid : m'.departmentId = m.departmentId := congrArg MembershipEntry.departmentId hm
    unfold OrgConsole.retitle
    by_cases hd : m.departmentId = d
    · rw [if_pos hd, if_pos (hid.trans hd)]
      have htitle :
          ({ m' with jobTitle := title } : Membership).entry = ({ m with jobTitle := title } : Membership).entry :=
        congrArg (fun e : MembershipEntry => { e with jobTitle := title }) hm
      exact congrArg₂ List.cons htitle hrest
    · rw [if_neg hd, if_neg (hid.trans_ne hd)]
      exact congrArg₂ List.cons hm (ih hrest)

/-- An edit makes of lists with the same entries lists with the same entries. -/
theorem SameEntries.apply (h : SameEntries ms ms') (edit : MembershipEdit) :
    SameEntries (edit.apply ms) (edit.apply ms') := by
  have hedited : SameEntries (edit.edited ms) (edit.edited ms') := by
    cases edit with
    | load list => exact rfl
    | add m =>
      simp only [MembershipEdit.edited, h.isMember_eq]
      split
      · exact h
      -- A flagged newcomer clears the other flags first.
      · split
        · exact (((sameEntries_flagged _ ms).symm.trans h).trans (sameEntries_flagged _ ms')).append m
        · exact h.append m
    | remove d => exact h.remove d
    | setPrimary d =>
      simp only [MembershipEdit.edited, h.isMember_eq]
      split
      · exact ((sameEntries_flagged _ ms).symm.trans h).trans (sameEntries_flagged _ ms')
      · exact h
    | setJobTitle d title => exact h.retitle d title
  exact ((sameEntries_reconcile _).symm.trans hedited).trans (sameEntries_reconcile _)

theorem SameEntries.applyEdits (h : SameEntries ms ms') (edits : List MembershipEdit) :
    SameEntries (applyEdits ms edits) (applyEdits ms' edits) := by
  induction edits generalizing ms ms' with
  | nil => exact h
  | cons edit rest ih => exact ih (h.apply edit)

end OrgConsole
