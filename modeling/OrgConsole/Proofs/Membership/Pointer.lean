import Mathlib.Data.List.Nodup
import OrgConsole.Proofs.Membership.Primary
/-!
# The primary membership as a pointer

A list of memberships carries a flag on every entry. The same information is a list of entries
without flags and a pointer to the department that is primary. On that form an edit says directly
what it does: it changes entries, or it moves the pointer. `edits_follow_pointer` says that the
flags never do anything else.
-/

namespace OrgConsole

/-- A membership without its flag. -/
structure MembershipEntry where
  departmentId : String
  departmentName : String
  corpId : String
  corpName : String
  jobTitle : Option String
  departmentPath : Option String
deriving DecidableEq, Repr

def Membership.entry (m : Membership) : MembershipEntry :=
  ⟨m.departmentId, m.departmentName, m.corpId, m.corpName, m.jobTitle, m.departmentPath⟩

def MembershipEntry.flagged (e : MembershipEntry) (isPrimary : Bool) : Membership :=
  ⟨e.departmentId, e.departmentName, e.corpId, e.corpName, e.jobTitle, isPrimary, e.departmentPath⟩

@[simp] theorem entry_departmentId (m : Membership) : m.entry.departmentId = m.departmentId := rfl

/-- Entries in order, and the department of the primary one. -/
structure PointedList where
  entries : List MembershipEntry
  primary : Option String
deriving DecidableEq, Repr

namespace PointedList

def departments (p : PointedList) : List String :=
  p.entries.map (·.departmentId)

/-- What a list of memberships stands for. -/
def ofMemberships (ms : List Membership) : PointedList where
  entries := ms.map (·.entry)
  primary := (primary? ms).map (·.departmentId)

/-- The memberships that a pointed list stands for. -/
def memberships (p : PointedList) : List Membership :=
  p.entries.map fun e => e.flagged (p.primary = some e.departmentId)

/-! ## Edits -/

/-- Take a list; the first flagged membership is primary, else the first of all. -/
def load (ms : List Membership) : PointedList where
  entries := ms.map (·.entry)
  primary := ((ms.find? (·.isPrimary)).or ms.head?).map (·.departmentId)

def add (m : Membership) (p : PointedList) : PointedList :=
  if m.departmentId ∈ p.departments then p
  else {
    entries := p.entries ++ [m.entry]
    primary := if m.isPrimary || p.entries.isEmpty then some m.departmentId else p.primary }

def remove (d : String) (p : PointedList) : PointedList :=
  let rest := p.entries.filter (·.departmentId ≠ d)
  { entries := rest
    primary := if p.primary = some d then rest.head?.map (·.departmentId) else p.primary }

def setPrimary (d : String) (p : PointedList) : PointedList :=
  if d ∈ p.departments then { p with primary := some d } else p

def setJobTitle (d : String) (title : Option String) (p : PointedList) : PointedList :=
  { p with entries := p.entries.map fun e => if e.departmentId = d then { e with jobTitle := title } else e }

def step (p : PointedList) : MembershipEdit → PointedList
  | .load list => load list
  | .add m => p.add m
  | .remove d => p.remove d
  | .setPrimary d => p.setPrimary d
  | .setJobTitle d title => p.setJobTitle d title

/-! ## Nothing is lost -/

@[simp] theorem departments_ofMemberships (ms : List Membership) :
    (ofMemberships ms).departments = ms.map (·.departmentId) := by
  simp [departments, ofMemberships]

theorem flagBlind_entry : FlagBlind (·.entry) := fun _ _ => rfl

/-- In a reconciled list a flagged membership is the primary one. -/
theorem primary?_eq_some {ms : List Membership} (h : Reconciled ms) {m : Membership} (hm : m ∈ ms)
    (hp : m.isPrimary) : primary? ms = some m := by
  rcases h with rfl | h
  · cases hm
  · rw [List.countP_eq_length_filter] at h
    obtain ⟨n, hn⟩ := List.length_eq_one_iff.1 h
    have hmn : m = n := by simpa [hn] using List.mem_filter.2 ⟨hm, hp⟩
    rw [primary?, ← List.head?_filter, hn, hmn, List.head?_cons]

theorem exists_primary {ms : List Membership} (h : Reconciled ms) (hne : ms ≠ []) :
    ∃ m ∈ ms, m.isPrimary ∧ primary? ms = some m := by
  rcases h with rfl | h
  · exact absurd rfl hne
  · obtain ⟨m, hm, hp⟩ := List.countP_pos_iff.1 (by omega : 0 < ms.countP (·.isPrimary))
    exact ⟨m, hm, hp, primary?_eq_some (.inr h) hm hp⟩

/-- A reconciled list without repeated departments is read back from what it stands for. -/
theorem memberships_ofMemberships {ms : List Membership} (h : Reconciled ms) (hd : DistinctDepartments ms) :
    (ofMemberships ms).memberships = ms := by
  have hflag : ∀ m ∈ ms, m.flagged ((primary? ms).map (·.departmentId) = some m.departmentId) = m := by
    intro m hm
    obtain ⟨p, hpm, hpp, hp⟩ := exists_primary h (List.ne_nil_of_mem hm)
    have hiff : decide ((primary? ms).map (·.departmentId) = some m.departmentId) = m.isPrimary := by
      cases hflagged : m.isPrimary with
      | true => simp [primary?_eq_some h hm hflagged]
      | false =>
        have hne : p.departmentId ≠ m.departmentId := by
          intro he
          rw [List.inj_on_of_nodup_map hd hpm hm he, hflagged] at hpp
          cases hpp
        simp [hp, hne]
    rw [hiff]
    rfl
  unfold memberships ofMemberships
  rw [List.map_map]
  exact (List.map_congr_left hflag).trans (List.map_id ms)

/-! ## Reconciling places the pointer -/

theorem primary?_keepFirstPrimary (ms : List Membership) : primary? (keepFirstPrimary ms) = primary? ms := by
  unfold primary?
  induction ms with
  | nil => rfl
  | cons m rest ih =>
    unfold keepFirstPrimary
    split
    · rename_i hm
      rw [List.find?_cons_of_pos hm, List.find?_cons_of_pos hm]
    · rename_i hm
      rw [List.find?_cons_of_neg hm, List.find?_cons_of_neg hm, ih]

/-- Reconciling a list is loading it. -/
theorem ofMemberships_reconcile (ms : List Membership) : ofMemberships (reconcile ms) = load ms := by
  have hprimary : (primary? (reconcile ms)).map (·.departmentId) =
      ((ms.find? (·.isPrimary)).or ms.head?).map (·.departmentId) := by
    unfold reconcile
    split
    · rename_i h
      obtain ⟨m, hm⟩ := Option.isSome_iff_exists.1 (List.find?_isSome.2 (List.any_eq_true.1 h))
      rw [primary?_keepFirstPrimary, primary?, hm, Option.some_or]
    · rename_i h
      have hnone : ms.find? (·.isPrimary) = none := by simpa using h
      cases ms with
      | nil => rfl
      | cons m rest =>
        rw [hnone, Option.none_or, primary?, List.find?_cons_of_pos (flagged_isPrimary m true)]
        rfl
  unfold ofMemberships load
  rw [hprimary, map_reconcile flagBlind_entry]

/-- A reconciled list points to what loading it would. -/
theorem load_eq_ofMemberships {ms : List Membership} (h : Reconciled ms) : load ms = ofMemberships ms := by
  unfold load ofMemberships
  by_cases hne : ms = []
  · subst hne
    rfl
  · obtain ⟨m, -, -, hm⟩ := exists_primary h hne
    rw [hm, show ms.find? (·.isPrimary) = some m from hm, Option.some_or]

/-! ## One edit -/

theorem load_add {ms : List Membership} (h : Reconciled ms) (m : Membership) :
    load (MembershipEdit.edited ms (.add m)) = (ofMemberships ms).add m := by
  simp only [MembershipEdit.edited, add, departments_ofMemberships]
  by_cases hmem : isMember ms m.departmentId = true
  · rw [if_pos hmem, if_pos (isMember_iff.1 hmem), load_eq_ofMemberships h]
  · rw [if_neg hmem, if_neg (mt isMember_iff.2 hmem)]
    cases hp : m.isPrimary with
    | true =>
      have hnone : (ms.map (·.flagged false)).find? (·.isPrimary) = none := by simp
      simp [load, ofMemberships, hnone, hp, map_flagged flagBlind_entry fun _ => false]
    | false =>
      by_cases hne : ms = []
      · subst hne
        simp [load, ofMemberships, hp]
      · obtain ⟨p, -, -, hprimary⟩ := exists_primary h hne
        rw [primary?] at hprimary
        simp [load, ofMemberships, primary?, hprimary, hne]

theorem load_remove {ms : List Membership} (h : Reconciled ms) (d : String) :
    load (MembershipEdit.edited ms (.remove d)) = (ofMemberships ms).remove d := by
  have hentries : (ms.filter (·.departmentId ≠ d)).map (·.entry) =
      (ms.map (·.entry)).filter (·.departmentId ≠ d) := by
    rw [List.filter_map]
    rfl
  have hhead : (ms.filter (·.departmentId ≠ d)).head?.map (·.departmentId) =
      ((ms.map (·.entry)).filter (·.departmentId ≠ d)).head?.map (·.departmentId) := by
    rw [← hentries, List.head?_map, Option.map_map]
    rfl
  have hprimary : (((ms.filter (·.departmentId ≠ d)).find? (·.isPrimary)).or
        (ms.filter (·.departmentId ≠ d)).head?).map (·.departmentId) =
      if (primary? ms).map (·.departmentId) = some d
      then (ms.filter (·.departmentId ≠ d)).head?.map (·.departmentId)
      else (primary? ms).map (·.departmentId) := by
    by_cases hne : ms = []
    · subst hne
      simp [primary?]
    · obtain ⟨p, hpm, hpp, hp⟩ := exists_primary h hne
      -- Whatever is flagged among the rest is the primary membership itself.
      have honly : ∀ m ∈ ms.filter (·.departmentId ≠ d), m.isPrimary → m = p := by
        intro m hm hmp
        have := primary?_eq_some h (List.mem_filter.1 hm).1 hmp
        rw [hp] at this
        exact (Option.some.inj this).symm
      by_cases hpd : p.departmentId = d
      · have hnone : (ms.filter (·.departmentId ≠ d)).find? (·.isPrimary) = none := by
          rw [List.find?_eq_none]
          intro m hm hmp
          obtain rfl := honly m hm hmp
          exact absurd hpd (by simpa using (List.mem_filter.1 hm).2)
        rw [hnone, Option.none_or, hp, Option.map_some, if_pos (by rw [hpd])]
      · have hsome : ((ms.filter (·.departmentId ≠ d)).find? (·.isPrimary)).isSome :=
          List.find?_isSome.2 ⟨p, List.mem_filter.2 ⟨hpm, by simpa using hpd⟩, hpp⟩
        obtain ⟨m, hm⟩ := Option.isSome_iff_exists.1 hsome
        obtain rfl := honly m (List.mem_of_find?_eq_some hm) (by simpa using List.find?_some hm)
        rw [hm, Option.some_or, hp, Option.map_some, if_neg (by simpa using hpd)]
  unfold MembershipEdit.edited load remove ofMemberships
  rw [hprimary, hentries, hhead]

theorem load_setPrimary {ms : List Membership} (h : Reconciled ms) (d : String) :
    load (MembershipEdit.edited ms (.setPrimary d)) = (ofMemberships ms).setPrimary d := by
  simp only [MembershipEdit.edited, setPrimary, departments_ofMemberships]
  by_cases hmem : isMember ms d = true
  · rw [if_pos hmem, if_pos (isMember_iff.1 hmem)]
    have hsome : (ms.find? (·.departmentId = d)).isSome := by
      obtain ⟨m, hm, rfl⟩ := List.mem_map.1 (isMember_iff.1 hmem)
      exact List.find?_isSome.2 ⟨m, hm, by simp⟩
    obtain ⟨m, hm⟩ := Option.isSome_iff_exists.1 hsome
    have hmd : m.departmentId = d := by simpa using List.find?_some hm
    have hfind : (ms.map fun m => m.flagged (m.departmentId = d)).find? (·.isPrimary) =
        some (m.flagged (m.departmentId = d)) := by
      rw [List.find?_map, show (·.isPrimary) ∘ (fun m : Membership => m.flagged (m.departmentId = d)) =
        fun m => decide (m.departmentId = d) from rfl, hm, Option.map_some]
    unfold load ofMemberships
    rw [hfind, Option.some_or, Option.map_some, flagged_departmentId, hmd, map_flagged flagBlind_entry]
  · rw [if_neg hmem, if_neg (mt isMember_iff.2 hmem), load_eq_ofMemberships h]

theorem map_entry_retitle {ms : List Membership} (hd : DistinctDepartments ms) (d : String) (title : Option String) :
    (retitle d title ms).map (·.entry) =
      (ms.map (·.entry)).map fun e => if e.departmentId = d then { e with jobTitle := title } else e := by
  induction ms with
  | nil => rfl
  | cons m rest ih =>
    obtain ⟨hm, hrest⟩ := List.nodup_cons.1 hd
    unfold retitle
    by_cases hmd : m.departmentId = d
    · -- Only the first entry is retitled, and no other entry has its department.
      have hothers : ∀ e ∈ rest.map (·.entry),
          (if e.departmentId = d then { e with jobTitle := title } else e) = e := by
        intro e he
        obtain ⟨n, hn, rfl⟩ := List.mem_map.1 he
        refine if_neg fun hnd => hm ?_
        exact List.mem_map.2 ⟨n, hn, hnd.trans hmd.symm⟩
      rw [if_pos hmd, List.map_cons, List.map_cons, List.map_cons, if_pos (by exact hmd),
        List.map_congr_left hothers, List.map_id']
      rfl
    · rw [if_neg hmd, List.map_cons, List.map_cons, List.map_cons, if_neg (by exact hmd), ih hrest]

theorem primary?_retitle (d : String) (title : Option String) (ms : List Membership) :
    ((retitle d title ms).find? (·.isPrimary)).map (·.departmentId) =
      (ms.find? (·.isPrimary)).map (·.departmentId) := by
  induction ms with
  | nil => rfl
  | cons m rest ih =>
    unfold retitle
    split
    · cases hp : m.isPrimary <;> simp [hp]
    · cases hp : m.isPrimary <;> simp [hp, ih]

theorem load_setJobTitle {ms : List Membership} (h : Reconciled ms) (hd : DistinctDepartments ms) (d : String)
    (title : Option String) :
    load (MembershipEdit.edited ms (.setJobTitle d title)) = (ofMemberships ms).setJobTitle d title := by
  have hhead : (retitle d title ms).head?.map (·.departmentId) = ms.head?.map (·.departmentId) := by
    rw [← List.head?_map, ← List.head?_map, map_departmentId_retitle]
  have hprimary : (load (retitle d title ms)).primary = (load ms).primary := by
    unfold load
    rw [Option.map_or, Option.map_or, primary?_retitle, hhead]
  rw [load_eq_ofMemberships h] at hprimary
  unfold MembershipEdit.edited setJobTitle
  rw [← hprimary, ofMemberships, ← map_entry_retitle hd]
  rfl

/-- What an edit does to a list is what it does to the entries and the pointer. -/
theorem ofMemberships_apply {ms : List Membership} (h : Reconciled ms) (hd : DistinctDepartments ms)
    (edit : MembershipEdit) : ofMemberships (edit.apply ms) = (ofMemberships ms).step edit := by
  unfold MembershipEdit.apply
  rw [ofMemberships_reconcile]
  cases edit with
  | load list => rfl
  | add m => exact load_add h m
  | remove d => exact load_remove h d
  | setPrimary d => exact load_setPrimary h d
  | setJobTitle d title => exact load_setJobTitle h hd d title

/-! ## Whole runs of edits -/

theorem ofMemberships_applyEdits {ms : List Membership} (h : Reconciled ms) (hd : DistinctDepartments ms)
    (edits : List MembershipEdit) (hload : ∀ list, .load list ∈ edits → DistinctDepartments list) :
    ofMemberships (applyEdits ms edits) = edits.foldl step (ofMemberships ms) := by
  induction edits generalizing ms with
  | nil => rfl
  | cons edit rest ih =>
    have hd' : DistinctDepartments (edit.apply ms) :=
      distinctDepartments_apply hd fun list h => hload list (by simp [h])
    rw [List.foldl_cons, ← ofMemberships_apply h hd edit]
    exact ih (reconciled_reconcile _) hd' fun list h => hload list (List.mem_cons_of_mem _ h)

/-- Edits to a reconciled list without repeated departments are steps of the pointed list that it
stands for, as long as no list with a repeated department is loaded. The outcome is the list that the
last pointed list stands for, so nothing else changes. -/
theorem edits_follow_pointer (ms : List Membership) (edits : List MembershipEdit) (h : Reconciled ms)
    (hd : DistinctDepartments ms) (hload : ∀ list, .load list ∈ edits → DistinctDepartments list) :
    ofMemberships (applyEdits ms edits) = edits.foldl step (ofMemberships ms) ∧
      applyEdits ms edits = (edits.foldl step (ofMemberships ms)).memberships := by
  have hrun := ofMemberships_applyEdits h hd edits hload
  refine ⟨hrun, ?_⟩
  have hreconciled : Reconciled (applyEdits ms edits) := by
    by_cases hne : edits = []
    · subst hne
      exact h
    · exact reconciled_applyEdits hne
  rw [← hrun, memberships_ofMemberships hreconciled (distinctDepartments_applyEdits hd edits hload)]

/-- The primary department is left, and the pointer moves to the first that remains. -/
theorem pointer_after_leaving :
    let ms := [Membership.of "1", (Membership.of "2").flagged true]
    let edits := [.setJobTitle "1" (some "Engineer"), .remove "2"]
    Reconciled ms ∧ DistinctDepartments ms ∧ (∀ list, .load list ∈ edits → DistinctDepartments list) ∧
      ofMemberships (applyEdits ms edits) = ⟨[⟨"1", "", "", "", some "Engineer", none⟩], some "1"⟩ ∧
      applyEdits ms edits = [⟨"1", "", "", "", some "Engineer", true, none⟩] := by
  intro ms edits
  have h : Reconciled ms := .inr rfl
  have hd : DistinctDepartments ms := by simp [DistinctDepartments, ms, Membership.of]
  have hload : ∀ list, .load list ∈ edits → DistinctDepartments list := by simp [edits]
  obtain ⟨hrun, hlist⟩ := edits_follow_pointer ms edits h hd hload
  exact ⟨h, hd, hload, hrun.trans (by decide), hlist.trans (by decide)⟩

end PointedList

end OrgConsole
