import OrgConsole.Proofs.Browser.StaffPane
import Mathlib.Data.List.Induction
/-!
# The staff that is shown

A reply about staff says which request it answers, and the browser compares nothing but the ticket.
That the list it then shows belongs to the selected department holds in every run, however keys and
replies follow on each other.
-/

namespace OrgConsole

/-! ## Forests -/

theorem Browser.forest_selectCursor (b : Browser) :
    b.selectCursor.1.forest = b.forest ∧ b.selectCursor.1.view = b.view := by
  rcases b.selectCursor_cases with h | ⟨n, -, -, h⟩
  · rw [h]
    exact ⟨rfl, rfl⟩
  · rw [h, requestStaff]
    cases n.isCorp <;> exact ⟨rfl, rfl⟩

/-- A key leaves the forest alone and shows what a search leaves of it, if it does not leave that
alone too. -/
theorem Browser.Handled.forest_view {b : Browser} {move : Browser × List Fetch} (h : b.Handled move) :
    move.1.forest = b.forest ∧ (move.1.view = b.view ∨ ∃ search, move.1.view = searchForest b.forest search) := by
  cases h with
  | searched search searching cursor => exact ⟨rfl, .inr ⟨search, rfl⟩⟩
  | selected searching keys row =>
    have h := forest_selectCursor { b with searching := searching, expanded := keys, cursor := row }
    exact ⟨h.1, .inl h.2⟩
  | entered pane => exact ⟨(forest_selectCursor b).1, .inl (forest_selectCursor b).2⟩
  | idle | expanded | left | scrolled | loading => exact ⟨rfl, .inl rfl⟩

/-- The nodes that a browser has and the ones in sight tell kind and id by their keys. -/
structure Browser.NodesKeyed (b : Browser) : Prop where
  forest : Keyed b.forest
  view : Keyed b.view

theorem Browser.NodesKeyed.handled {b : Browser} {move : Browser × List Fetch} (hb : b.NodesKeyed)
    (h : b.Handled move) : move.1.NodesKeyed := by
  obtain ⟨hforest, hview⟩ := h.forest_view
  refine ⟨hforest ▸ hb.forest, ?_⟩
  rcases hview with hsame | ⟨search, hsearch⟩
  · rw [hsame]
    exact hb.view
  · rw [hsearch]
    exact hb.forest.searchForest search

/-- A reply about staff leaves the forest alone. -/
theorem Browser.NodesKeyed.receive_staff {b : Browser} (hb : b.NodesKeyed) (ticket : Ticket) (departmentId : String)
    (answer : Except String (List Employee)) : (b.receive (.staff ticket departmentId answer)).NodesKeyed := by
  unfold receive
  split
  · exact hb
  · cases answer <;> exact ⟨hb.forest, hb.view⟩

/-- A reply with an organization says nothing about staff. -/
theorem Browser.staffPane_receive_tree (b : Browser) (ticket : Ticket) (result : Except String (List OrgNode)) :
    (b.receive (.tree ticket result)).staffPane = b.staffPane := by
  unfold receive
  split
  · rfl
  · cases result <;> rfl

theorem Browser.NodesKeyed.receive_tree {b : Browser} (hb : b.NodesKeyed) (ticket : Ticket)
    (result : Except String (List RawNode)) :
    (b.receive (.tree ticket (result.map buildForest))).NodesKeyed := by
  unfold receive
  split
  · exact hb
  · cases result with
    | ok forest => exact ⟨keyed_buildForest forest, (keyed_buildForest forest).searchForest b.search⟩
    | error why => exact ⟨hb.forest, hb.view⟩

/-! ## Runs -/

namespace LoggedBrowser

/-- What carries the statements about staff through a run. -/
structure Sound (s : LoggedBrowser) : Prop where
  nodes : s.browser.NodesKeyed
  follows : s.browser.staffPane.Follows s.log

theorem sound_new : new.Sound where
  nodes := ⟨nofun, nofun⟩
  follows := ⟨⟨rfl, rfl, rfl⟩, .inl rfl, rfl, nofun⟩

theorem Sound.moved {s : LoggedBrowser} {move : Browser × List Fetch} (h : s.Sound) (hmove : s.browser.Handled move) :
    (s.moved move).Sound :=
  ⟨h.nodes.handled hmove, h.follows.outcome h.nodes.view (outcome_of_handled hmove)⟩

/-- Whatever happens, the browser stays sound, if no answer is too late. -/
theorem Sound.after {s : LoggedBrowser} (h : s.Sound) (o : Occurrence)
    (hlate : ∀ place answer, o = .staff place answer → s.log.length ≤ place + 2 ^ 64) : (s.after o).Sound := by
  cases o with
  | load => exact h.moved .loading
  | press k =>
    rcases s.after_press k with hsame | ⟨move, hmove, hafter⟩
    · rw [hsame]
      exact h
    · rw [hafter]
      exact h.moved hmove
  | forest ticket result =>
    -- What was selected stays selected, even if the new organization does not have it.
    refine ⟨h.nodes.receive_tree ticket result, ?_⟩
    have hpane := s.browser.staffPane_receive_tree ticket (result.map buildForest)
    exact hpane ▸ h.follows
  | staff place answer =>
    rcases s.after_staff place answer with hsame | ⟨ticket, departmentId, hplace, hafter⟩
    · rw [hsame]
      exact h
    · rw [hafter]
      exact ⟨h.nodes.receive_staff ticket departmentId answer,
        follows_receive_staff h.follows hplace (hlate place answer rfl) answer⟩

theorem sound_run (os : List Occurrence) (h : InTime os) : (run os).Sound := by
  -- The last occurrence is taken off, because whether it is late depends on the log before it.
  induction os using List.reverseRecOn with
  | nil => exact sound_new
  | append_singleton os o ih =>
    rw [run_concat]
    refine (ih h.init).after o ?_
    rintro place answer rfl
    exact h.last

/-! ## How long the log gets -/

theorem length_log_after_le (s : LoggedBrowser) (o : Occurrence) : (s.after o).log.length ≤ s.log.length + 1 := by
  have hmoved : ∀ move, s.browser.Handled move → (s.moved move).log.length ≤ s.log.length + 1 := by
    intro move hmove
    rw [moved, List.length_append]
    exact Nat.add_le_add_left (outcome_of_handled hmove).length_le _
  cases o with
  | load => exact hmoved _ .loading
  | press k =>
    rcases s.after_press k with hsame | ⟨move, hmove, hafter⟩
    · rw [hsame]
      exact Nat.le_succ _
    · rw [hafter]
      exact hmoved move hmove
  | forest ticket result => exact Nat.le_succ _
  | staff place answer =>
    rcases s.after_staff place answer with hsame | ⟨ticket, departmentId, -, hafter⟩
    · rw [hsame]
      exact Nat.le_succ _
    · rw [hafter, List.length_set]
      exact Nat.le_succ _

theorem length_log_run_le (os : List Occurrence) : (run os).log.length ≤ os.length := by
  have hlength := size_foldl_le (·.log.length) length_log_after_le new os
  rwa [show new.log.length = 0 from rfl, Nat.zero_add] at hlength

/-- In a run of at most 2 ^ 64 occurrences no answer is late. -/
theorem inTime_of_length_le {os : List Occurrence} (h : os.length ≤ 2 ^ 64) : InTime os := by
  intro before place answer rest he
  have hbefore : before.length ≤ os.length := by
    rw [he, List.length_append]
    exact Nat.le_add_right _ _
  have hlog := length_log_run_le before
  omega

/-! ## What is shown in the end -/

/-- What can be said of the staff, whatever was pressed and answered. -/
structure StaffSafe (s : LoggedBrowser) : Prop where
  /-- Staff that is shown was asked for last, and for the department that is selected. -/
  shown : s.browser.staff ≠ [] → ∃ ticket departmentId, s.browser.selected = some (deptKey departmentId) ∧
    s.log.getLast? = some (.request ticket departmentId (some (.ok s.browser.staff)))
  hidden : (s.browser.selected = none ∨ ∃ corpId, s.browser.selected = some (corpKey corpId)) → s.browser.staff = []
  /-- It says that it loads as long as the last step about staff is a request without an answer. -/
  loading : s.browser.staffLoading = true ↔
    ∃ ticket departmentId, s.log.getLast? = some (.request ticket departmentId none)
  scroll : s.browser.scroll = 0 ∨ s.browser.scroll < s.browser.staff.length

/-- In every run the staff that is shown is that of the selected department, as long as no answer comes
2 ^ 64 steps late. -/
theorem staff_of_selection (os : List Occurrence) (h : InTime os) : (run os).StaffSafe := by
  have hfollows := (sound_run os h).follows
  exact {
    shown := hfollows.shows.staff
    hidden := hfollows.shows.staff_eq_nil
    loading := hfollows.shows.loading_iff
    scroll := hfollows.scroll }

/-- The answer about the department that was left comes first, and the one that counts is shown. -/
theorem staff_of_selection_returned_to :
    let ann : Employee := ⟨"1", "Ann", none, true⟩
    let bob : Employee := ⟨"2", "Bob", none, true⟩
    let os : List Occurrence := [.load, .forest ⟨1⟩ (.ok [.dept "7" "Ops", .dept "8" "Eng"]),
      .press ⟨.char 'j', false⟩, .press ⟨.char 'k', false⟩, .staff 0 (.ok [bob]), .staff 1 (.ok [ann])]
    InTime os ∧ (run os).StaffSafe ∧
      (run os).browser.selected = some (deptKey "7") ∧ (run os).browser.staff = [ann] := by
  intro ann bob os
  have h : InTime os := inTime_of_length_le (by decide)
  exact ⟨h, staff_of_selection os h, rfl, rfl⟩

end LoggedBrowser

end OrgConsole
