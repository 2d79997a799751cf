import OrgConsole.Proofs.Permission.Spans
import OrgConsole.Report
/-!
# The printed permission matrix

A matrix is printed row by row. Two things are left out where they would only be repeated: the line with the domain,
which depends on the row above, and the name of the resource, which depends on the span. They are found in different
ways, and still a row under a domain's line always names its resource.
-/

namespace OrgConsole

/-- Row `i` is the first of all or lies in another domain than the row above it. -/
def BeginsDomain (rows : List PermissionRow) (i : Nat) : Prop :=
  i = 0 ∨ rows[i]?.map (·.domain) ≠ rows[i - 1]?.map (·.domain)

instance (rows : List PermissionRow) (i : Nat) : Decidable (BeginsDomain rows i) :=
  inferInstanceAs (Decidable (_ ∨ _))

namespace Report

/-- A text with spaces after it, at least `width` characters long. -/
def padded (width : Nat) (text : String) : String :=
  text ++ String.ofList (List.replicate (width - text.length) ' ')

/-- What is printed for a row: a line with its domain if the row is `headed`, and the row's own line, which shows the
name of the resource if the row is `named`. -/
def matrixEntry (width : Nat) (headed named : Bool) (row : PermissionRow) : String :=
  (if headed then row.domainName ++ " (" ++ row.domain ++ ")\n" else "") ++
    "  " ++ padded width (if named then row.resourceName else "") ++ "  [" ++ (if row.isChecked then "x" else " ") ++
    "] " ++ padded 32 row.permissionId ++ " " ++ row.actionName ++ "\n"

theorem toList_padded (width : Nat) (text : String) : (padded width text).toList = Text.padRight width text.toList := by
  simp [padded, Text.padRight, String.length_toList]

theorem toList_matrixEntry (width : Nat) (headed : Bool) (span : Nat) (row : PermissionRow) :
    (matrixEntry width headed (0 < span) row).toList =
      (if headed then domainLine row else []) ++ matrixLine width span row := by
  by_cases hspan : 0 < span <;> cases headed <;> cases hchecked : row.isChecked <;>
    simp [matrixEntry, domainLine, matrixLine, toList_padded, hspan, hchecked]

/-! ## Domains -/

/-- The domain of the row above row `i`, where `above` is that of the row above them all. -/
def domainAbove (above : Option String) (rows : List PermissionRow) : Nat → Option String
  | 0 => above
  | i + 1 => rows[i]?.map (·.domain)

theorem matrixLines_eq (width : Nat) (above : Option String) (pairs : List (PermissionRow × Nat)) :
    matrixLines width above pairs = (pairs.mapIdx fun i p =>
      (if domainAbove above (pairs.map (·.1)) i = some p.1.domain then [] else domainLine p.1) ++
        matrixLine width p.2 p.1).flatten := by
  induction pairs generalizing above with
  | nil => rfl
  | cons p rest ih =>
    have hbelow : ∀ i, domainAbove above ((p :: rest).map (·.1)) (i + 1) =
        domainAbove (some p.1.domain) (rest.map (·.1)) i := by
      rintro (_ | i) <;> rfl
    obtain ⟨row, span⟩ := p
    rw [matrixLines, ih, List.mapIdx_cons, List.flatten_cons]
    simp only [hbelow]
    rfl

theorem domainAbove_eq_iff {rows : List PermissionRow} {i : Nat} {row : PermissionRow} (hrow : rows[i]? = some row) :
    domainAbove none rows i = some row.domain ↔ ¬ BeginsDomain rows i := by
  cases i with
  | zero => simp [domainAbove, BeginsDomain]
  | succ i => simp [domainAbove, BeginsDomain, hrow, eq_comm]

/-- The matrix is printed row by row. -/
theorem matrix_eq_join {rows : List PermissionRow} (hlength : (resourceSpans rows).length = rows.length) :
    matrix rows = String.join ((rows.zip (resourceSpans rows)).mapIdx fun i (row, span) =>
      matrixEntry (resourceWidth rows) (BeginsDomain rows i) (0 < span) row) := by
  have hrows : (rows.zip (resourceSpans rows)).map (·.1) = rows := List.map_fst_zip (Nat.le_of_eq hlength.symm)
  rw [← String.toList_inj, String.toList_join, matrix, String.toList_ofList, matrixLines_eq, hrows, List.flatMap_def]
  refine congrArg List.flatten (List.ext_getElem (by simp) fun i hi _ => ?_)
  rw [List.length_mapIdx] at hi
  have hrow : rows[i]? = some (rows.zip (resourceSpans rows))[i].1 := by
    conv_lhs => rw [← hrows]
    rw [List.getElem?_map, List.getElem?_eq_getElem hi]
    rfl
  rw [List.getElem_map, List.getElem_mapIdx, List.getElem_mapIdx, toList_matrixEntry]
  simp only [domainAbove_eq_iff hrow, ite_not, decide_eq_true_eq]

/-- Where a domain begins a run begins too. -/
theorem exists_span_of_beginsDomain {rows : List PermissionRow} {i : Nat} (hi : i < rows.length)
    (hdomain : BeginsDomain rows i) : ∃ k, 0 < k ∧ (resourceSpans rows)[i]? = some k := by
  obtain ⟨heading, before, run, after, hrun, rfl, hle, hlt⟩ := exists_run hi
  obtain ⟨j, rfl⟩ := Nat.exists_eq_add_of_le hle
  have hj : j < run.length := by omega
  have hinside : ∀ j < run.length, (before ++ run ++ after)[before.length + j]?.map (·.domain) = some heading.1 := by
    intro j hj
    rw [List.append_assoc, List.getElem?_append_right (Nat.le_add_right _ _), Nat.add_sub_cancel_left,
      List.getElem?_append_left hj, List.getElem?_eq_getElem hj, Option.map_some]
    exact congrArg (some ·.1) (hrun.alike _ (List.getElem_mem hj))
  have hfirst : j = 0 := by
    by_contra hne
    rcases hdomain with hzero | hdiffers
    · omega
    · rw [Nat.add_sub_assoc (by omega), hinside j hj, hinside (j - 1) (by omega)] at hdiffers
      exact hdiffers rfl
  subst hfirst
  exact ⟨run.length, hrun.length_pos, hrun.getElem?_resourceSpans hj⟩

end Report

/-- Spans can be filled in run by run, in at most one round for each row, each of which begins at a row. There is one
for each row: the length of the run that begins there, or none if no run does, so they add up to the number of rows. A
row is printed below its domain if it is the first or if the row above it lies in another domain, and with the name of
its resource if it has a span. A row that is printed below its domain has one. -/
theorem matrix_groups_rows (rows : List PermissionRow) :
    let spans := resourceSpans rows
    (∃ rounds ≤ rows.length, (Filling.next rows)^[rounds] (.blank rows) = ⟨rows.length, spans⟩ ∧
        ∀ r < rounds, ((Filling.next rows)^[r] (.blank rows)).start < rows.length) ∧
      spans.length = rows.length ∧
      (∀ i k, 0 < k → (spans[i]? = some k ↔ BeginsRun rows i k)) ∧
      (∀ i < rows.length, spans[i]? = some 0 ↔ ∀ k, ¬ BeginsRun rows i k) ∧
      spans.sum = rows.length ∧
      Report.matrix rows = String.join ((rows.zip spans).mapIdx fun i (row, span) =>
        Report.matrixEntry (Report.resourceWidth rows) (BeginsDomain rows i) (0 < span) row) ∧
      ∀ i < rows.length, BeginsDomain rows i → ∃ k, 0 < k ∧ spans[i]? = some k := by
  intro spans
  have hlength := length_resourceSpans rows
  refine ⟨Filling.iterate_next_blank rows, hlength, fun _ _ => getElem?_resourceSpans_eq_some_iff,
    fun i hi => getElem?_resourceSpans_eq_zero_iff hi, sum_resourceSpans rows, Report.matrix_eq_join hlength,
    fun _ => Report.exists_span_of_beginsDomain⟩

/-- Two domains share a resource name, and one domain comes back further down. -/
theorem matrix_groups_rows_of_returning_domain :
    let row (domain resource action : String) : PermissionRow :=
      ⟨domain ++ "_" ++ resource ++ "_" ++ action, domain, domain, resource, resource, action, action, "", false⟩
    let rows := [row "hr" "staff" "read", row "org" "staff" "read", row "org" "staff" "edit", row "hr" "staff" "edit"]
    resourceSpans rows = [1, 2, 0, 1] ∧ BeginsRun rows 1 2 ∧ (∀ k, ¬ BeginsRun rows 2 k) ∧
      BeginsDomain rows 3 ∧ ∃ k, 0 < k ∧ (resourceSpans rows)[3]? = some k := by
  intro row rows
  have hspans : resourceSpans rows = [1, 2, 0, 1] := by decide
  have hdomain : BeginsDomain rows 3 := by decide
  obtain ⟨-, -, hbegins, hnone, -, -, hnamed⟩ := matrix_groups_rows rows
  exact ⟨hspans, (hbegins 1 2 (by decide)).1 (by rw [hspans]; rfl), (hnone 2 (by decide)).1 (by rw [hspans]; rfl),
    hdomain, hnamed 3 (by decide) hdomain⟩

end OrgConsole
