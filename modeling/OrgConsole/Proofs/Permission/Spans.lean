import Mathlib.Algebra.Ring.Nat
import Mathlib.Data.List.Basic
import Mathlib.Data.List.TakeWhile
import Mathlib.Logic.Function.Iterate
import OrgConsole.Permission.Matrix
/-!
# Spans and runs

Rows fall into runs: as many consecutive rows as possible of one domain and one resource name. The first row of a run
has the length of the run for its span, and the others have none. Everything about spans is an induction on runs, in
which the first run is taken off the rows. That is also how spans can be filled in, run by run, and each round gets
further.
-/

namespace OrgConsole

/-- What a row is listed under: its domain and the name of its resource. -/
def PermissionRow.heading (row : PermissionRow) : String × String :=
  (row.domain, row.resourceName)

/-- A run of rows with those before it and those after it: all its rows have one heading, and neither the last row
before it nor the first row after it has that heading. -/
structure IsRun (heading : String × String) (before run after : List PermissionRow) : Prop where
  nonempty : run ≠ []
  alike : ∀ row ∈ run, row.heading = heading
  begins : ∀ row ∈ before.getLast?, row.heading ≠ heading
  ends : ∀ row ∈ after.head?, row.heading ≠ heading

/-- A run of `k` rows begins at row `i`. -/
def BeginsRun (rows : List PermissionRow) (i k : Nat) : Prop :=
  ∃ heading before run after, IsRun heading before run after ∧ rows = before ++ run ++ after ∧
    before.length = i ∧ run.length = k

/-- How many rows from the first on have its heading. -/
def runLength : List PermissionRow → Nat
  | [] => 0
  | row :: rest => ((row :: rest).takeWhile (·.sameResource row)).length

variable {heading heading' : String × String} {rows before run after first : List PermissionRow}

theorem sameResource_iff {a b : PermissionRow} : a.sameResource b = true ↔ a.heading = b.heading := by
  simp [PermissionRow.sameResource, PermissionRow.heading]

/-! ## Runs -/

theorem IsRun.length_pos (h : IsRun heading before run after) : 0 < run.length :=
  List.length_pos_iff.2 h.nonempty

/-- A run begins with a row of its heading. -/
theorem IsRun.exists_head? (h : IsRun heading before run after) (rest : List PermissionRow) :
    ∃ row ∈ (run ++ rest).head?, row.heading = heading := by
  obtain ⟨row, others, rfl⟩ := List.exists_cons_of_ne_nil h.nonempty
  exact ⟨row, rfl, h.alike row List.mem_cons_self⟩

/-- A run ends with a row of its heading. -/
theorem IsRun.heading_of_getLast? (h : IsRun heading before run after) {earlier : List PermissionRow} {row : PermissionRow}
    (hrow : row ∈ (earlier ++ run).getLast?) : row.heading = heading := by
  rw [List.getLast?_append_of_ne_nil _ h.nonempty] at hrow
  exact h.alike row (List.mem_of_getLast? hrow)

/-- Rows begin with a run. -/
theorem exists_first_run (row : PermissionRow) (rest : List PermissionRow) :
    ∃ run after, row :: rest = run ++ after ∧ IsRun row.heading [] run after ∧ runLength (row :: rest) = run.length := by
  let alike (r : PermissionRow) : Bool := r.sameResource row
  have hrow : alike row = true := sameResource_iff.2 rfl
  refine ⟨(row :: rest).takeWhile alike, (row :: rest).dropWhile alike, List.takeWhile_append_dropWhile.symm, ?_, rfl⟩
  refine { nonempty := ?_, alike := fun r hr => ?_, begins := by simp, ends := fun r hr hsame => ?_ }
  · rw [List.takeWhile_cons_of_pos hrow]
    exact List.cons_ne_nil _ _
  · have halike : alike r = true := List.mem_takeWhile_imp hr
    exact sameResource_iff.1 halike
  · have hdiffers := List.head?_dropWhile_not alike (row :: rest)
    rw [Option.mem_def.1 hr] at hdiffers
    exact Bool.eq_false_iff.1 hdiffers (sameResource_iff.2 hsame)

/-- Rows are made of runs: what holds of no rows, and holds with one more run in front, holds of all. -/
theorem runs_induction {P : List PermissionRow → Prop} (nil : P [])
    (run_append : ∀ heading run after, IsRun heading [] run after → runLength (run ++ after) = run.length →
      P after → P (run ++ after)) : ∀ rows, P rows
  | [] => nil
  | row :: rest => by
    obtain ⟨run, after, hrows, hrun, hlength⟩ := exists_first_run row rest
    have hshorter : after.length < (row :: rest).length := by
      rw [hrows, List.length_append]
      exact Nat.lt_add_of_pos_left hrun.length_pos
    rw [hrows] at hlength ⊢
    exact run_append _ run after hrun hlength (runs_induction nil run_append after)
termination_by rows => rows.length
decreasing_by exact hshorter

theorem IsRun.of_border (h : IsRun heading [] run after) (hbegins : ∀ row ∈ before.getLast?, row.heading ≠ heading) :
    IsRun heading before run after :=
  ⟨h.nonempty, h.alike, hbegins, h.ends⟩

theorem IsRun.behind (h : IsRun heading' before run after) (hfirst : IsRun heading [] first (before ++ run ++ after)) :
    IsRun heading' (first ++ before) run after := by
  refine ⟨h.nonempty, h.alike, fun row hrow => ?_, h.ends⟩
  by_cases hbefore : before = []
  · -- The first run ends where this one begins.
    subst hbefore
    obtain ⟨head, hhead, hheading⟩ := h.exists_head? after
    have hrow' : row ∈ ([] ++ first).getLast? := by simpa using hrow
    rw [hfirst.heading_of_getLast? hrow', ← hheading]
    exact (hfirst.ends head hhead).symm
  · rw [List.getLast?_append_of_ne_nil _ hbefore] at hrow
    exact h.begins row hrow

/-- Every row lies in a run. -/
theorem exists_run {i : Nat} (hi : i < rows.length) :
    ∃ heading before run after, IsRun heading before run after ∧ rows = before ++ run ++ after ∧
      before.length ≤ i ∧ i < before.length + run.length := by
  induction rows using runs_induction generalizing i with
  | nil => cases hi
  | run_append heading first others hfirst _ ih =>
    by_cases hfront : i < first.length
    · exact ⟨heading, [], first, others, hfirst, rfl, Nat.zero_le i, by simpa using hfront⟩
    · have hothers : i - first.length < others.length := by
        rw [List.length_append] at hi
        omega
      obtain ⟨heading', before, run, after, hrun, rfl, hle, hlt⟩ := ih hothers
      refine ⟨heading', first ++ before, run, after, hrun.behind hfirst, by simp, ?_, ?_⟩
      · rw [List.length_append]
        omega
      · rw [List.length_append]
        omega

/-! ## Spans of runs -/

/-- The spans of a run of rows. -/
def runSpans (k : Nat) : List Nat :=
  k :: List.replicate (k - 1) 0

theorem length_runSpans {k : Nat} (hk : 0 < k) : (runSpans k).length = k := by
  rw [runSpans, List.length_cons, List.length_replicate]
  omega

theorem sum_runSpans (k : Nat) : (runSpans k).sum = k := by
  simp [runSpans]

theorem exists_resourceSpans_cons (row : PermissionRow) (rest : List PermissionRow) :
    ∃ k spans, resourceSpans (row :: rest) = k :: spans := by
  unfold resourceSpans
  split
  · split
    · exact ⟨_, _, rfl⟩
    · exact ⟨_, _, rfl⟩
  · exact ⟨_, _, rfl⟩

/-- The span of the row below moves up if the row is of the same run. -/
theorem resourceSpans_cons_cons {row next : PermissionRow} {rest : List PermissionRow} {k : Nat} {spans : List Nat}
    (h : resourceSpans (next :: rest) = k :: spans) : resourceSpans (row :: next :: rest) =
      if row.heading = next.heading then (k + 1) :: 0 :: spans else 1 :: k :: spans := by
  unfold resourceSpans
  rw [h]
  simp only [sameResource_iff]

theorem resourceSpans_run (hne : run ≠ []) (halike : ∀ row ∈ run, row.heading = heading) :
    resourceSpans run = runSpans run.length := by
  induction run with
  | nil => exact absurd rfl hne
  | cons row rest ih =>
    cases rest with
    | nil => rfl
    | cons next rest =>
      have hsame : row.heading = next.heading := by
        rw [halike row (by simp), halike next (by simp)]
      rw [resourceSpans_cons_cons (ih (List.cons_ne_nil _ _) fun r hr => halike r (List.mem_cons_of_mem _ hr)),
        if_pos hsame]
      simp [runSpans, List.replicate_succ]

/-- Where the heading changes, what is above and what is below do not see each other. -/
theorem resourceSpans_append (hborder : ∀ a ∈ before.getLast?, ∀ b ∈ after.head?, a.heading ≠ b.heading) :
    resourceSpans (before ++ after) = resourceSpans before ++ resourceSpans after := by
  induction before with
  | nil => rfl
  | cons row rest ih =>
    cases rest with
    | nil =>
      cases after with
      | nil => rfl
      | cons next others =>
        obtain ⟨k, spans, hspans⟩ := exists_resourceSpans_cons next others
        have hdiffers : row.heading ≠ next.heading := hborder row rfl next rfl
        rw [List.singleton_append, resourceSpans_cons_cons hspans, if_neg hdiffers, hspans]
        rfl
    | cons next rest =>
      obtain ⟨k, spans, hspans⟩ := exists_resourceSpans_cons next rest
      have hboth : resourceSpans (next :: (rest ++ after)) = k :: (spans ++ resourceSpans after) := by
        rw [← List.cons_append, ih (by simpa using hborder), hspans, List.cons_append]
      rw [List.cons_append, List.cons_append, resourceSpans_cons_cons hboth, resourceSpans_cons_cons hspans]
      split <;> rfl

theorem IsRun.resourceSpans_append (h : IsRun heading before run after) :
    resourceSpans (before ++ run ++ after) =
      resourceSpans before ++ runSpans run.length ++ resourceSpans after := by
  have habove : ∀ a ∈ before.getLast?, ∀ b ∈ run.head?, a.heading ≠ b.heading := by
    intro a ha b hb
    rw [h.alike b (List.mem_of_head? hb)]
    exact h.begins a ha
  have hbelow : ∀ a ∈ (before ++ run).getLast?, ∀ b ∈ after.head?, a.heading ≠ b.heading := by
    intro a ha b hb
    rw [h.heading_of_getLast? ha]
    exact (h.ends b hb).symm
  rw [OrgConsole.resourceSpans_append hbelow, OrgConsole.resourceSpans_append habove,
    resourceSpans_run h.nonempty h.alike]

/-- The spans of a first run and of what comes after it. -/
theorem IsRun.resourceSpans_eq (h : IsRun heading [] run after) :
    resourceSpans (run ++ after) = runSpans run.length ++ resourceSpans after :=
  h.resourceSpans_append

theorem length_resourceSpans (rows : List PermissionRow) : (resourceSpans rows).length = rows.length := by
  induction rows using runs_induction with
  | nil => rfl
  | run_append heading run after hrun _ ih =>
    rw [hrun.resourceSpans_eq, List.length_append, List.length_append, length_runSpans hrun.length_pos, ih]

theorem sum_resourceSpans (rows : List PermissionRow) : (resourceSpans rows).sum = rows.length := by
  induction rows using runs_induction with
  | nil => rfl
  | run_append heading run after hrun _ ih =>
    rw [hrun.resourceSpans_eq, List.sum_append, List.length_append, sum_runSpans, ih]

/-- The first row of a run has its length for a span, and no other row of it has any. -/
theorem IsRun.getElem?_resourceSpans (h : IsRun heading before run after) {j : Nat} (hj : j < run.length) :
    (resourceSpans (before ++ run ++ after))[before.length + j]? = some (if j = 0 then run.length else 0) := by
  have hbefore : before.length = (resourceSpans before).length := (length_resourceSpans before).symm
  have hrun : j < (runSpans run.length).length := by rwa [length_runSpans h.length_pos]
  rw [h.resourceSpans_append, List.append_assoc, hbefore, List.getElem?_append_right (Nat.le_add_right _ _),
    Nat.add_sub_cancel_left, List.getElem?_append_left hrun, runSpans]
  cases j with
  | zero => rfl
  | succ j =>
    rw [length_runSpans h.length_pos] at hrun
    rw [List.getElem?_cons_succ, List.getElem?_replicate_of_lt (by omega), if_neg (Nat.succ_ne_zero j)]

/-- A row has a span exactly if a run begins there, and then it is the length of the run. -/
theorem getElem?_resourceSpans_eq_some_iff {i k : Nat} (hk : 0 < k) :
    (resourceSpans rows)[i]? = some k ↔ BeginsRun rows i k := by
  constructor
  · intro hspan
    have hi : i < rows.length := by
      rw [← length_resourceSpans]
      exact (List.getElem?_eq_some_iff.1 hspan).1
    obtain ⟨heading, before, run, after, hrun, rfl, hle, hlt⟩ := exists_run hi
    obtain ⟨j, rfl⟩ := Nat.exists_eq_add_of_le hle
    rw [hrun.getElem?_resourceSpans (by omega), Option.some.injEq] at hspan
    split at hspan
    · rename_i hj
      exact ⟨heading, before, run, after, hrun, rfl, by rw [hj, Nat.add_zero], hspan⟩
    · omega
  · rintro ⟨heading, before, run, after, hrun, rfl, rfl, rfl⟩
    exact hrun.getElem?_resourceSpans hk

theorem getElem?_resourceSpans_eq_zero_iff {i : Nat} (hi : i < rows.length) :
    (resourceSpans rows)[i]? = some 0 ↔ ∀ k, ¬ BeginsRun rows i k := by
  constructor
  · rintro hspan k ⟨heading, before, run, after, hrun, rfl, rfl, rfl⟩
    have hlength := hrun.getElem?_resourceSpans hrun.length_pos
    rw [Nat.add_zero, hspan, Option.some.injEq] at hlength
    exact absurd hlength.symm (Nat.ne_of_gt hrun.length_pos)
  · intro hnone
    rw [← length_resourceSpans] at hi
    rw [List.getElem?_eq_getElem hi, Option.some.injEq]
    by_contra hspan
    exact hnone _ ((getElem?_resourceSpans_eq_some_iff (Nat.pos_of_ne_zero hspan)).1 (List.getElem?_eq_getElem hi))

/-! ## Filling in spans -/

/-- Spans that are being filled in: at which row the next run begins, and the spans so far. -/
structure Filling where
  start : Nat
  spans : List Nat
deriving DecidableEq, Repr

namespace Filling

/-- Nothing is filled in. -/
def blank (rows : List PermissionRow) : Filling :=
  ⟨0, List.replicate rows.length 0⟩

/-- One more run is measured, noted at its first row and passed over. -/
def next (rows : List PermissionRow) (f : Filling) : Filling :=
  let length := runLength (rows.drop f.start)
  ⟨f.start + length, f.spans.set f.start length⟩

/-- Rows filled in up to a row where a run begins. -/
def upTo (before rest : List PermissionRow) : Filling :=
  ⟨before.length, resourceSpans before ++ List.replicate rest.length 0⟩

theorem upTo_nil (rows : List PermissionRow) : upTo [] rows = blank rows := rfl

theorem upTo_all (rows : List PermissionRow) : upTo rows [] = ⟨rows.length, resourceSpans rows⟩ := by
  simp [upTo]

theorem next_upTo (h : IsRun heading before run after) (hlength : runLength (run ++ after) = run.length) :
    (upTo before (run ++ after)).next (before ++ (run ++ after)) = upTo (before ++ run) after := by
  have hspans : resourceSpans (before ++ run) = resourceSpans before ++ runSpans run.length := by
    have hrun : IsRun heading before run [] := ⟨h.nonempty, h.alike, h.begins, by simp⟩
    simpa [resourceSpans] using hrun.resourceSpans_append
  have hset : (List.replicate (run ++ after).length 0).set 0 run.length =
      runSpans run.length ++ List.replicate after.length 0 := by
    obtain ⟨k, hk⟩ := Nat.exists_eq_add_of_lt h.length_pos
    simp [runSpans, hk, List.replicate_succ, Nat.add_right_comm]
  have hplace : before.length = (resourceSpans before).length := (length_resourceSpans before).symm
  simp only [next, upTo, List.drop_left, hlength, hspans]
  rw [List.set_append_right _ _ (Nat.le_of_eq hplace.symm), hplace, Nat.sub_self, hset, List.append_assoc, ← hplace,
    List.length_append]

/-- From where a run begins it takes at most one round for each row to fill in the rest. -/
theorem iterate_next_upTo (rest : List PermissionRow) :
    ∀ before, (∀ a ∈ before.getLast?, ∀ b ∈ rest.head?, a.heading ≠ b.heading) →
      ∃ rounds ≤ rest.length, (next (before ++ rest))^[rounds] (upTo before rest) = upTo (before ++ rest) [] ∧
        ∀ r < rounds, ((next (before ++ rest))^[r] (upTo before rest)).start < (before ++ rest).length := by
  induction rest using runs_induction with
  | nil =>
    intro before _
    refine ⟨0, Nat.le_refl 0, by simp, fun r hr => absurd hr (Nat.not_lt_zero r)⟩
  | run_append heading run after hrun hlength ih =>
    intro before hborder
    obtain ⟨head, hhead, hheading⟩ := hrun.exists_head? after
    have hbegins : ∀ row ∈ before.getLast?, row.heading ≠ heading := by
      intro row hrow
      rw [← hheading]
      exact hborder row hrow head hhead
    have hround := next_upTo (hrun.of_border hbegins) hlength
    obtain ⟨rounds, hle, hend, hrounds⟩ := ih (before ++ run) fun a ha b hb => by
      rw [hrun.heading_of_getLast? ha]
      exact (hrun.ends b hb).symm
    rw [List.append_assoc] at hend hrounds
    refine ⟨rounds + 1, ?_, ?_, ?_⟩
    · have := hrun.length_pos
      rw [List.length_append]
      omega
    · rw [Function.iterate_succ_apply, hround, hend]
    · rintro (_ | r) hr
      · have := hrun.length_pos
        simp only [Function.iterate_zero, id, upTo, List.length_append]
        omega
      · rw [Function.iterate_succ_apply, hround]
        exact hrounds r (Nat.lt_of_succ_lt_succ hr)

/-- Filling in ends after at most one round for each row, with the spans of the rows. -/
theorem iterate_next_blank (rows : List PermissionRow) :
    ∃ rounds ≤ rows.length, (next rows)^[rounds] (blank rows) = ⟨rows.length, resourceSpans rows⟩ ∧
      ∀ r < rounds, ((next rows)^[r] (blank rows)).start < rows.length := by
  have h := iterate_next_upTo rows [] (by simp)
  rwa [List.nil_append, upTo_nil, upTo_all] at h

end Filling

end OrgConsole
