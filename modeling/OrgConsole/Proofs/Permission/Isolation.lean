import OrgConsole.Proofs.Permission.Seed
/-!
# One checkbox at a time

Rows, the template that is written back and the reported change are all made action by action from the
selection, and they know an action by its id only. No two actions of a template that has a matrix
share an id, so flipping a checkbox shows in one place of each, and an id that no action has shows
nowhere.
-/

namespace OrgConsole

/-! ## Lists that differ in one place -/

/-- The first list becomes the second by `change` in one place. The member there, and no other, is
named `x`. -/
def ChangedAt {α : Type} (name : α → String) (x : String) (change : α → α) (as as' : List α) : Prop :=
  ∃ before a after, as = before ++ a :: after ∧ as' = before ++ change a :: after ∧ change a ≠ a ∧
    name a = x ∧ ∀ other ∈ before ++ after, name other ≠ x

/-- The second list is the first with `x` added in one place. -/
def AddedTo (x : String) (ids ids' : List String) : Prop :=
  x ∉ ids ∧ ∃ before after, ids = before ++ after ∧ ids' = before ++ x :: after

theorem ne_of_nodup_split {α : Type} {name : α → String} {before after : List α} {a : α}
    (h : ((before ++ a :: after).map name).Nodup) : ∀ other ∈ before ++ after, name other ≠ name a := by
  intro other hother he
  rw [List.map_append, List.map_cons, List.nodup_middle, List.nodup_cons, ← List.map_append] at h
  exact h.1 (he ▸ List.mem_map_of_mem hother)

/-- What is made of two selections leaf by leaf differs at the leaf with id `x`, if the leaves with
other ids give the same. -/
theorem changedAt_map {α : Type} {name : α → String} {change : α → α} {f f' : Leaf → α} {ls : List Leaf} {x : String}
    (hnodup : (ls.map (·.id)).Nodup) (hx : x ∈ ls.map (·.id)) (hname : ∀ l, name (f l) = l.id)
    (hothers : ∀ l, l.id ≠ x → f' l = f l) (hat : ∀ l, l.id = x → f' l = change (f l) ∧ change (f l) ≠ f l) :
    ChangedAt name x change (ls.map f) (ls.map f') := by
  obtain ⟨l, hl, rfl⟩ := List.mem_map.1 hx
  obtain ⟨before, after, rfl⟩ := List.append_of_mem hl
  have hne := ne_of_nodup_split hnodup
  have hbefore : before.map f' = before.map f :=
    List.map_congr_left fun other h => hothers other (hne other (List.mem_append_left _ h))
  have hafter : after.map f' = after.map f :=
    List.map_congr_left fun other h => hothers other (hne other (List.mem_append_right _ h))
  obtain ⟨hchange, hdiffers⟩ := hat l rfl
  refine ⟨before.map f, f l, after.map f, ?_, ?_, hdiffers, hname l, ?_⟩
  · rw [List.map_append, List.map_cons]
  · rw [List.map_append, List.map_cons, hbefore, hafter, hchange]
  · rw [← List.map_append]
    intro other hother
    obtain ⟨l', hl', rfl⟩ := List.mem_map.1 hother
    rw [hname]
    exact hne l' hl'

/-- Choosing one more of several distinct ids adds it to those that are chosen. -/
theorem addedTo_filter {ids : List String} {x : String} {p p' : String → Bool} (hnodup : ids.Nodup) (hx : x ∈ ids)
    (hothers : ∀ id, id ≠ x → p' id = p id) (hout : p x = false) (hin : p' x = true) :
    AddedTo x (ids.filter p) (ids.filter p') := by
  obtain ⟨before, after, rfl⟩ := List.append_of_mem hx
  have hne : ∀ id ∈ before ++ after, id ≠ x := by
    rw [← List.map_id (before ++ x :: after)] at hnodup
    exact ne_of_nodup_split hnodup
  have hbefore : before.filter p' = before.filter p :=
    List.filter_congr fun id h => hothers id (hne id (List.mem_append_left _ h))
  have hafter : after.filter p' = after.filter p :=
    List.filter_congr fun id h => hothers id (hne id (List.mem_append_right _ h))
  refine ⟨fun h => ?_, before.filter p, after.filter p, ?_, ?_⟩
  · have := (List.mem_filter.1 h).2
    rw [hout] at this
    cases this
  · rw [List.filter_append, List.filter_cons_of_neg (by simp [hout])]
  · rw [List.filter_append, List.filter_cons_of_pos hin, hbefore, hafter]

theorem addedTo_filter_or {ids : List String} {x : String} {p p' : String → Bool} (hnodup : ids.Nodup) (hx : x ∈ ids)
    (hothers : ∀ id, id ≠ x → p' id = p id) (hflipped : p' x = !p x) :
    AddedTo x (ids.filter p) (ids.filter p') ∨ AddedTo x (ids.filter p') (ids.filter p) := by
  cases hp : p x with
  | false => exact .inl (addedTo_filter hnodup hx hothers hp (by rw [hflipped, hp]; rfl))
  | true => exact .inr (addedTo_filter hnodup hx (fun id h => (hothers id h).symm) (by rw [hflipped, hp]; rfl) hp)

theorem filter_eq_of_alike {ids : List String} {x : String} {p p' : String → Bool}
    (hothers : ∀ id, id ≠ x → p' id = p id) (hx : p' x = p x) : ids.filter p' = ids.filter p := by
  congr 1
  funext id
  by_cases h : id = x
  · rw [h, hx]
  · exact hothers id h

/-! ## One checkbox -/

theorem isChecked_toggle_self (s : Selection) (x : String) : (s.toggle x).isChecked x = !s.isChecked x := by
  rw [Selection.toggle, Selection.isChecked_set, if_pos rfl]

theorem isChecked_toggle_of_ne (s : Selection) {x id : String} (h : id ≠ x) :
    (s.toggle x).isChecked id = s.isChecked id := by
  rw [Selection.toggle, Selection.isChecked_set, if_neg h.symm]

/-- An id that no action has counts for nothing. -/
theorem sameChecks_set_stray {groups : List PermissionGroup} {y : String} (hy : y ∉ permissionIds groups)
    (s : Selection) (checked : Bool) : SameChecks groups s (s.set y checked) := by
  intro id hid
  rw [Selection.isChecked_set, if_neg]
  rintro rfl
  exact hy hid

def PermissionRow.flipped (row : PermissionRow) : PermissionRow :=
  { row with isChecked := !row.isChecked }

/-- The leaf granted if it was not, and not granted if it was. -/
def Leaf.flipped (l : Leaf) : Leaf :=
  { l with action := { l.action with mark := if l.action.mark = 1 then 0 else 1 } }

/-- One id is added to what is granted or to what is revoked, or taken away from there; the other list
stays. -/
def PermissionChange.TurnedAt (x : String) (c c' : PermissionChange) : Prop :=
  (c'.revoked = c.revoked ∧ (AddedTo x c.granted c'.granted ∨ AddedTo x c'.granted c.granted)) ∨
    (c'.granted = c.granted ∧ (AddedTo x c.revoked c'.revoked ∨ AddedTo x c'.revoked c.revoked))

/-- Two selections show in one place of everything: at the action with id `x`. -/
structure TurnedAt (m : PermissionMatrix) (x : String) (s s' : Selection) : Prop where
  rows : ChangedAt (·.permissionId) x PermissionRow.flipped (m.rows s) (m.rows s')
  /-- The action has another mark. -/
  actions : ChangedAt (·.id) x Leaf.flipped (leaves (rebuild m.groups s)) (leaves (rebuild m.groups s'))
  /-- Marks apart, what is written back is the same. -/
  names : unmarked (rebuild m.groups s') = unmarked (rebuild m.groups s)
  change : (m.change s).TurnedAt x (m.change s')

/-- Two selections show nowhere. -/
structure AlikeUnder (m : PermissionMatrix) (s s' : Selection) : Prop where
  rows : m.rows s' = m.rows s
  rebuilt : rebuild m.groups s' = rebuild m.groups s
  change : m.change s' = m.change s

theorem SameChecks.alikeUnder {m : PermissionMatrix} {s s' : Selection} (h : SameChecks m.groups s s') :
    AlikeUnder m s s' :=
  ⟨h.flatten_eq, h.rebuild_eq, h.changeBetween_eq m.selection⟩

variable {groups : List PermissionGroup} {x : String}

theorem flatten_toggle (hnodup : (permissionIds groups).Nodup) (hx : x ∈ permissionIds groups) (s : Selection) :
    ChangedAt (·.permissionId) x PermissionRow.flipped (flatten groups s) (flatten groups (s.toggle x)) := by
  refine changedAt_map hnodup hx (fun _ => rfl) (fun l hl => ?_) (fun l hl => ?_)
  · rw [Leaf.row, Leaf.row, isChecked_toggle_of_ne s hl]
  · subst hl
    simp [Leaf.row, PermissionRow.flipped, isChecked_toggle_self]

theorem leaves_rebuild_toggle (hnodup : (permissionIds groups).Nodup) (hx : x ∈ permissionIds groups) (s : Selection) :
    ChangedAt (·.id) x Leaf.flipped (leaves (rebuild groups s)) (leaves (rebuild groups (s.toggle x))) := by
  rw [leaves_rebuild, leaves_rebuild]
  refine changedAt_map hnodup hx (fun _ => rfl) (fun l hl => ?_) (fun l hl => ?_)
  · rw [PermissionAction.remark, PermissionAction.remark, isChecked_toggle_of_ne s hl]
  · subst hl
    cases h : s.isChecked l.id <;> simp [Leaf.flipped, PermissionAction.remark, isChecked_toggle_self, h]

theorem changeBetween_toggle (hnodup : (permissionIds groups).Nodup) (hx : x ∈ permissionIds groups)
    (before s : Selection) :
    (changeBetween groups before s).TurnedAt x (changeBetween groups before (s.toggle x)) := by
  have hgranted : ∀ id, id ≠ x →
      (!before.isChecked id && (s.toggle x).isChecked id) = (!before.isChecked id && s.isChecked id) := by
    intro id he
    rw [isChecked_toggle_of_ne s he]
  have hrevoked : ∀ id, id ≠ x →
      (before.isChecked id && !(s.toggle x).isChecked id) = (before.isChecked id && !s.isChecked id) := by
    intro id he
    rw [isChecked_toggle_of_ne s he]
  have hself := isChecked_toggle_self s x
  -- What was checked before can only be revoked, and what was not can only be granted.
  cases hbefore : before.isChecked x with
  | false =>
    refine .inl ⟨filter_eq_of_alike hrevoked ?_, addedTo_filter_or hnodup hx hgranted ?_⟩
    · simp [hbefore]
    · simp [hbefore, hself]
  | true =>
    refine .inr ⟨filter_eq_of_alike hgranted ?_, addedTo_filter_or hnodup hx hrevoked ?_⟩
    · simp [hbefore]
    · simp [hbefore, hself]

/-- In a template that has a matrix, flipping the checkbox of an action shows in its own row, its own
mark and its own place in the change, and nowhere else. Flipping or setting what is no action's
checkbox shows nowhere. -/
theorem toggle_isolated {ε : Type} (groups : List PermissionGroup) (m : PermissionMatrix)
    (hm : (PermissionMatrix.ofGroups groups : Except (Failure ε) PermissionMatrix) = .ok m) (s : Selection) :
    m.groups = groups ∧ (∀ x ∈ permissionIds groups, TurnedAt m x s (s.toggle x)) ∧
      ∀ y ∉ permissionIds groups, AlikeUnder m s (s.toggle y) ∧ ∀ checked, AlikeUnder m s (s.set y checked) := by
  obtain ⟨hnodup, rfl⟩ := ofGroups_eq_ok_iff.1 hm
  refine ⟨rfl, fun x hx => ?_, fun y hy => ⟨?_, fun checked => ?_⟩⟩
  · exact {
      rows := flatten_toggle hnodup hx s
      actions := leaves_rebuild_toggle hnodup hx s
      names := by rw [unmarked_rebuild, unmarked_rebuild]
      change := changeBetween_toggle hnodup hx _ s }
  · exact (sameChecks_set_stray hy s _).alikeUnder
  · exact (sameChecks_set_stray hy s checked).alikeUnder

/-- Names with underscores that come close to each other without meeting. -/
theorem toggle_isolated_among_underscores :
    let action (name : String) (mark : UInt8) : PermissionAction := ⟨name, name, "", mark, 0⟩
    let groups : List PermissionGroup := [⟨"a", "A", [⟨"b", "B", [action "c" 1, action "c_d" 7]⟩]⟩,
      ⟨"a_b", "AB", [⟨"c", "C", [action "e" 0]⟩]⟩]
    let m : PermissionMatrix := ⟨groups, seedSelection groups⟩
    (PermissionMatrix.ofGroups groups : Except (Failure Empty) PermissionMatrix) = .ok m ∧
      ("a_b_c_d" ∈ permissionIds groups ∧ TurnedAt m "a_b_c_d" m.selection (m.selection.toggle "a_b_c_d")) ∧
      ("a_b" ∉ permissionIds groups ∧ AlikeUnder m m.selection (m.selection.toggle "a_b")) := by
  intro action groups m
  have hm : (PermissionMatrix.ofGroups groups : Except (Failure Empty) PermissionMatrix) = .ok m :=
    ofGroups_eq_ok_iff.2 ⟨by decide, rfl⟩
  have hid : "a_b_c_d" ∈ permissionIds groups := by decide
  have hstray : "a_b" ∉ permissionIds groups := by decide
  obtain ⟨-, hturned, halike⟩ := toggle_isolated groups m hm m.selection
  exact ⟨hm, ⟨hid, hturned _ hid⟩, hstray, (halike _ hstray).1⟩

end OrgConsole
