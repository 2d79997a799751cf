import OrgConsole.Proofs.Membership.Pointer
/-!
# Leaving several departments

Whoever leaves several departments one after the other may be given a primary department on the way that is left again
later. In the end that makes no difference: what remains are the memberships in other departments, and the first of
them is promoted if the primary one is gone. So neither the order of the removals counts nor how often a department is
left.
-/

namespace OrgConsole

variable {ms : List Membership} {departments : List String}

/-- The list with its first membership made primary. -/
def promoteFirst : List Membership → List Membership
  | [] => []
  | m :: rest => m.flagged true :: rest

/-- The memberships in other departments than the given ones. -/
def outside (departments : List String) (ms : List Membership) : List Membership :=
  ms.filter (·.departmentId ∉ departments)

/-! ## At most one primary membership -/

theorem Reconciled.countP_filter_le (h : Reconciled ms) (stays : Membership → Bool) :
    (ms.filter stays).countP (·.isPrimary) ≤ 1 := by
  refine Nat.le_trans List.filter_sublist.countP_le ?_
  rcases h with rfl | h
  · exact Nat.zero_le 1
  · exact Nat.le_of_eq h

/-- A list with at most one primary membership is reconciled already, or none of it is primary. -/
theorem reconciled_or_none (h : ms.countP (·.isPrimary) ≤ 1) : Reconciled ms ∨ ms.countP (·.isPrimary) = 0 := by
  rcases Nat.le_one_iff_eq_zero_or_eq_one.1 h with hnone | hone
  · exact .inr hnone
  · exact .inl (.inr hone)

theorem reconcile_eq_promoteFirst (h : ms.countP (·.isPrimary) = 0) : reconcile ms = promoteFirst ms := by
  unfold reconcile
  rw [List.any_eq_false.2 (List.countP_eq_zero.1 h)]
  cases ms <;> rfl

theorem reconciled_promoteFirst (h : ms.countP (·.isPrimary) = 0) : Reconciled (promoteFirst ms) := by
  rw [← reconcile_eq_promoteFirst h]
  exact reconciled_reconcile ms

/-- Whoever is promoted before others go may as well be promoted after them. -/
theorem reconcile_filter_reconcile {stays : Membership → Bool} (hstays : FlagBlind stays)
    (h : ms.countP (·.isPrimary) ≤ 1) : reconcile ((reconcile ms).filter stays) = reconcile (ms.filter stays) := by
  rcases reconciled_or_none h with hms | hnone
  · rw [reconcile_eq_self hms]
  · rw [reconcile_eq_promoteFirst hnone]
    have hfilter : (ms.filter stays).countP (·.isPrimary) = 0 :=
      Nat.le_zero.1 (hnone ▸ List.filter_sublist.countP_le)
    cases ms with
    | nil => rfl
    | cons m rest =>
      unfold promoteFirst
      by_cases hm : stays m = true
      · -- The promoted membership stays, and is the first of those that stay.
        rw [List.filter_cons_of_pos hm] at hfilter ⊢
        rw [List.filter_cons_of_pos ((hstays m true).trans hm), reconcile_eq_promoteFirst hfilter]
        exact reconcile_eq_self (reconciled_promoteFirst hfilter)
      · have hpromoted : ¬ stays (m.flagged true) = true := by rwa [hstays m true]
        rw [List.filter_cons_of_neg hm, List.filter_cons_of_neg hpromoted]

/-! ## Several removals -/

theorem outside_cons (d : String) (departments : List String) (ms : List Membership) :
    outside (d :: departments) ms = outside departments (ms.filter (·.departmentId ≠ d)) := by
  unfold outside
  rw [List.filter_filter]
  refine List.filter_congr fun m _ => ?_
  simp [Bool.and_comm]

theorem outside_congr {departments' : List String} (h : ∀ d, d ∈ departments' ↔ d ∈ departments)
    (ms : List Membership) : outside departments' ms = outside departments ms :=
  List.filter_congr fun m _ => decide_eq_decide.2 (not_congr (h m.departmentId))

/-- Of all the reconciling on the way, the last would have been enough. -/
theorem applyEdits_removals (h : Reconciled ms) (departments : List String) :
    applyEdits ms (departments.map .remove) = reconcile (outside departments ms) := by
  induction departments generalizing ms with
  | nil =>
    have hall : outside [] ms = ms := List.filter_eq_self.2 (by simp)
    rw [hall, reconcile_eq_self h]
    rfl
  | cons d rest ih =>
    have hfirst : applyEdits ms ((d :: rest).map .remove) =
        applyEdits (reconcile (ms.filter (·.departmentId ≠ d))) (rest.map .remove) := rfl
    rw [hfirst, ih (reconciled_reconcile _), outside_cons]
    exact reconcile_filter_reconcile (fun _ _ => rfl) (h.countP_filter_le _)

/-- If the primary membership stays, it is still the primary one. -/
theorem primary?_outside {p : Membership} (h : Reconciled ms) (hp : primary? ms = some p)
    (hstays : p.departmentId ∉ departments) :
    Reconciled (outside departments ms) ∧ primary? (outside departments ms) = some p := by
  have hmem : p ∈ outside departments ms :=
    List.mem_filter.2 ⟨List.mem_of_find?_eq_some hp, decide_eq_true hstays⟩
  have hprimary : p.isPrimary = true := by simpa using List.find?_some hp
  have hreconciled : Reconciled (outside departments ms) := by
    refine (reconciled_or_none (h.countP_filter_le _)).resolve_right fun hnone => ?_
    exact List.countP_eq_zero.1 hnone p hmem hprimary
  exact ⟨hreconciled, PointedList.primary?_eq_some hreconciled hmem hprimary⟩

/-- If the primary membership goes, none of those that stay is primary. -/
theorem isPrimary_outside (h : Reconciled ms)
    (hgone : ∀ p, primary? ms = some p → p.departmentId ∈ departments) {m : Membership}
    (hm : m ∈ outside departments ms) : m.isPrimary = false := by
  obtain ⟨hmem, hstays⟩ := List.mem_filter.1 hm
  refine Bool.eq_false_iff.2 fun hprimary => of_decide_eq_true hstays ?_
  exact hgone m (PointedList.primary?_eq_some h hmem hprimary)

/-- Who leaves departments from a reconciled list keeps the memberships in all others, in order. The primary one stays
primary if it is among them; else none of them was, and the first is promoted. Departments left in another order, or
several times, leave the same list. -/
theorem removals_in_any_order (ms : List Membership) (departments : List String) (h : Reconciled ms) :
    let remaining := ms.filter (·.departmentId ∉ departments)
    let result := applyEdits ms (departments.map .remove)
    (∀ p, primary? ms = some p → p.departmentId ∉ departments → result = remaining ∧ primary? result = some p) ∧
      ((∀ p, primary? ms = some p → p.departmentId ∈ departments) →
        result = promoteFirst remaining ∧ ∀ m ∈ remaining, m.isPrimary = false) ∧
      ∀ departments' : List String, (∀ d, d ∈ departments' ↔ d ∈ departments) →
        applyEdits ms (departments'.map .remove) = result := by
  intro remaining result
  have hresult : result = reconcile remaining := applyEdits_removals h departments
  refine ⟨fun p hp hstays => ?_, fun hgone => ?_, fun departments' hsame => ?_⟩
  · obtain ⟨hreconciled, hprimary⟩ := primary?_outside h hp hstays
    have hkept : result = remaining := hresult.trans (reconcile_eq_self hreconciled)
    exact ⟨hkept, hkept ▸ hprimary⟩
  · have hnone : ∀ m ∈ remaining, m.isPrimary = false := fun m hm => isPrimary_outside h hgone hm
    have hcount : remaining.countP (·.isPrimary) = 0 :=
      List.countP_eq_zero.2 fun m hm => Bool.eq_false_iff.1 (hnone m hm)
    exact ⟨hresult.trans (reconcile_eq_promoteFirst hcount), hnone⟩
  · rw [hresult, applyEdits_removals h, outside_congr hsame]
    rfl

/-- The primary department is listed twice. In one order the first membership is promoted on the way and then left. -/
theorem removals_in_any_order_with_promotion :
    let ms := [Membership.of "1", (Membership.of "2").flagged true, .of "3", .of "2", .of "4"]
    Reconciled ms ∧ primary? ms = some ((Membership.of "2").flagged true) ∧
      (∀ p, primary? ms = some p → p.departmentId ∈ ["2", "1"]) ∧
      (∀ d, d ∈ ["1", "2", "1"] ↔ d ∈ ["2", "1"]) ∧
      applyEdits ms (["2", "1"].map .remove) = [(Membership.of "3").flagged true, .of "4"] ∧
      applyEdits ms (["1", "2", "1"].map .remove) = [(Membership.of "3").flagged true, .of "4"] ∧
      applyEdits ms (["4", "1"].map .remove) = [(Membership.of "2").flagged true, .of "3", .of "2"] := by
  intro ms
  have h : Reconciled ms := .inr rfl
  have hprimary : primary? ms = some ((Membership.of "2").flagged true) := rfl
  have hgone : ∀ p, primary? ms = some p → p.departmentId ∈ ["2", "1"] := by
    intro p hp
    obtain rfl := Option.some.inj (hprimary.symm.trans hp)
    decide
  have hsame : ∀ d, d ∈ ["1", "2", "1"] ↔ d ∈ ["2", "1"] := by
    intro d
    simp only [List.mem_cons, List.not_mem_nil, or_false]
    tauto
  obtain ⟨-, hpromoted, horder⟩ := removals_in_any_order ms ["2", "1"] h
  obtain ⟨hkept, -, -⟩ := removals_in_any_order ms ["4", "1"] h
  have hresult : applyEdits ms (["2", "1"].map .remove) = [(Membership.of "3").flagged true, .of "4"] :=
    (hpromoted hgone).1.trans (by decide)
  exact ⟨h, hprimary, hgone, hsame, hresult, (horder _ hsame).trans hresult,
    (hkept _ hprimary (by decide)).1.trans (by decide)⟩

end OrgConsole
