import OrgConsole.Proofs.Permission.Seed
/-!
# What changes between two selections

A change lists the actions that are granted and those that are revoked between two selections. It is as good as the
second selection: set in the first what the change says, and the actions are checked as in the second. That holds
whether ids are shared or not, and ids that no action has play no part.
-/

namespace OrgConsole

/-! ## Setting what a change says -/

/-- A selection after checkboxes were set one after the other. -/
def Selection.setEach (s : Selection) (pairs : List (String × Bool)) : Selection :=
  pairs.foldl (fun s p => s.set p.1 p.2) s

namespace PermissionChange

/-- The checkboxes that a change is about, each with what it is set to. -/
def settings (c : PermissionChange) : List (String × Bool) :=
  c.granted.map (·, true) ++ c.revoked.map (·, false)

/-- The change the other way round. -/
def reversed (c : PermissionChange) : PermissionChange :=
  ⟨c.revoked, c.granted⟩

theorem isEmpty_iff {c : PermissionChange} : c.isEmpty = true ↔ c.granted = [] ∧ c.revoked = [] := by
  rw [isEmpty, Bool.and_eq_true, List.isEmpty_iff, List.isEmpty_iff]

theorem mem_settings {c : PermissionChange} {id : String} {checked : Bool} :
    (id, checked) ∈ c.settings ↔ if checked then id ∈ c.granted else id ∈ c.revoked := by
  cases checked <;> simp [settings]

end PermissionChange

variable {groups : List PermissionGroup} {before after : Selection}

theorem mem_settings_changeBetween {id : String} {checked : Bool} :
    (id, checked) ∈ (changeBetween groups before after).settings ↔
      id ∈ permissionIds groups ∧ after.isChecked id = checked ∧ before.isChecked id ≠ checked := by
  rw [PermissionChange.mem_settings]
  cases checked <;> simp [changeBetween, and_comm]

theorem not_revoked_of_granted {id : String} (hgranted : id ∈ (changeBetween groups before after).granted) :
    id ∉ (changeBetween groups before after).revoked := by
  intro hrevoked
  have htrue : (id, true) ∈ (changeBetween groups before after).settings := PermissionChange.mem_settings.2 hgranted
  have hfalse : (id, false) ∈ (changeBetween groups before after).settings := PermissionChange.mem_settings.2 hrevoked
  have hchecked := (mem_settings_changeBetween.1 htrue).2.1
  rw [(mem_settings_changeBetween.1 hfalse).2.1] at hchecked
  cases hchecked

/-- Setting what changes, in any order and however often, checks the actions as the second selection does. -/
theorem sameChecks_setEach {pairs : List (String × Bool)}
    (h : ∀ p, p ∈ pairs ↔ p ∈ (changeBetween groups before after).settings) :
    SameChecks groups (before.setEach pairs) after := by
  intro id hid
  have hpairs : ∀ p ∈ pairs, p.1 = id → p.2 = after.isChecked id := by
    rintro ⟨id, checked⟩ hp rfl
    exact (mem_settings_changeBetween.1 ((h _).1 hp)).2.1.symm
  rw [Selection.setEach, isChecked_foldl_set before hpairs]
  split
  · rfl
  · -- What is not set is the same in both selections.
    rename_i hnone
    by_contra hdiffers
    have hset := mem_settings_changeBetween.2 ⟨hid, rfl, Ne.symm hdiffers⟩
    exact hnone (List.mem_map_of_mem ((h _).2 hset))

/-! ## One selection for another -/

theorem changeBetween_reversed (groups : List PermissionGroup) (before after : Selection) :
    changeBetween groups after before = (changeBetween groups before after).reversed := by
  simp only [changeBetween, PermissionChange.reversed, Bool.and_comm]

/-- Actions that are checked alike change alike. -/
theorem changeBetween_congr {before' after' : Selection} (hbefore : SameChecks groups before before')
    (hafter : SameChecks groups after after') : changeBetween groups before' after' = changeBetween groups before after := by
  rw [hafter.changeBetween_eq, changeBetween_reversed, hbefore.changeBetween_eq, ← changeBetween_reversed]

theorem isEmpty_changeBetween_iff :
    (changeBetween groups before after).isEmpty = true ↔ SameChecks groups before after := by
  constructor
  · intro hempty id hid
    obtain ⟨hgranted, hrevoked⟩ := PermissionChange.isEmpty_iff.1 hempty
    by_contra hdiffers
    have hset := mem_settings_changeBetween.2 ⟨hid, rfl, Ne.symm hdiffers⟩
    rw [PermissionChange.settings, hgranted, hrevoked] at hset
    cases hset
  · intro hsame
    rw [hsame.changes_nothing]
    rfl

/-- Rows show which actions are checked. -/
theorem flatten_eq_iff : flatten groups before = flatten groups after ↔ SameChecks groups before after := by
  refine ⟨fun h id hid => ?_, fun h => h.flatten_eq.symm⟩
  obtain ⟨l, hl, rfl⟩ := List.mem_map.1 hid
  exact congrArg PermissionRow.isChecked (List.map_inj_left.1 h l hl).symm

/-- What is granted between two selections is not revoked, and both are actions of the template in its order. Set
in the first selection, the change gives one that checks the actions as the second does. The other way round the
two lists are exchanged. Nothing changes exactly if the rows are the same. And the change depends on either
selection only through the actions of the template. -/
theorem changeBetween_laws (groups : List PermissionGroup) (before after : Selection) :
    let change := changeBetween groups before after
    (∀ id ∈ change.granted, id ∉ change.revoked) ∧
      change.granted.Sublist (permissionIds groups) ∧ change.revoked.Sublist (permissionIds groups) ∧
      (∀ pairs, (∀ p, p ∈ pairs ↔ p ∈ change.settings) → SameChecks groups (before.setEach pairs) after) ∧
      changeBetween groups after before = change.reversed ∧
      (change.isEmpty = true ↔ flatten groups before = flatten groups after) ∧
      ∀ before' after', SameChecks groups before before' → SameChecks groups after after' →
        changeBetween groups before' after' = change := by
  exact ⟨fun _ => not_revoked_of_granted, List.filter_sublist, List.filter_sublist, fun _ => sameChecks_setEach,
    changeBetween_reversed groups before after, isEmpty_changeBetween_iff.trans flatten_eq_iff.symm,
    fun _ _ => changeBetween_congr⟩

/-- Two actions share an id that is granted, and the selections hold ids that no action has. -/
theorem changeBetween_laws_with_shared_id :
    let action (name : String) : PermissionAction := ⟨name, name, "", 0, 0⟩
    let groups : List PermissionGroup := [⟨"a_b", "AB", [⟨"c", "C", [action "d"]⟩]⟩,
      ⟨"a", "A", [⟨"b_c", "BC", [action "e", action "d"]⟩]⟩]
    let before := Selection.ofList [("a_b_c_e", true), ("a", true)]
    let after := Selection.ofList [("a_b_c_d", true), ("a_b_c_e", false), ("gone", true)]
    let change : PermissionChange := ⟨["a_b_c_d", "a_b_c_d"], ["a_b_c_e"]⟩
    let pairs := [("a_b_c_e", false), ("a_b_c_d", true)]
    changeBetween groups before after = change ∧
      ("a_b_c_d" ∈ change.granted ∧ "a_b_c_d" ∉ change.revoked) ∧
      (∀ p, p ∈ pairs ↔ p ∈ change.settings) ∧ SameChecks groups (before.setEach pairs) after ∧
      SameChecks groups before (before.set "gone" true) ∧ SameChecks groups after (after.set "a" false) ∧
      changeBetween groups (before.set "gone" true) (after.set "a" false) = change := by
  intro action groups before after change pairs
  have hchange : changeBetween groups before after = change := by decide +kernel
  have hpairs : ∀ p, p ∈ pairs ↔ p ∈ change.settings := by
    intro p
    simp [pairs, change, PermissionChange.settings, or_comm]
  have hbefore : SameChecks groups before (before.set "gone" true) := by
    unfold SameChecks
    decide +kernel
  have hafter : SameChecks groups after (after.set "a" false) := by
    unfold SameChecks
    decide +kernel
  have hlaws := changeBetween_laws groups before after
  rw [hchange] at hlaws
  obtain ⟨hapart, -, -, hset, -, -, hstray⟩ := hlaws
  have hgranted : "a_b_c_d" ∈ change.granted := List.mem_cons_self
  exact ⟨hchange, ⟨hgranted, hapart _ hgranted⟩, hpairs, hset pairs hpairs, hbefore, hafter, hstray _ _ hbefore hafter⟩

end OrgConsole
