import OrgConsole.Proofs.Browser.Bare
import OrgConsole.Proofs.Browser.Staff
/-!
# The order of replies about staff

Two runs with the same keys and the same organizations differ only in when their replies about staff
come. What is in sight, what is selected and what is asked is then the same all along. And once every
request has its answer, and has the same one in both runs, the staff is the same, whatever the order
was.
-/

namespace OrgConsole

namespace LoggedBrowser

variable {answers : Nat → Except String (List Employee)}

/-- The replies about staff are those of `answers`, which has one for the place of every request. -/
def AnsweredBy (answers : Nat → Except String (List Employee)) (os : List Occurrence) : Prop :=
  ∀ place answer, .staff place answer ∈ os → answer = answers place

/-- No request waits for its answer. -/
def AllAnswered (s : LoggedBrowser) : Prop :=
  ∀ ticket departmentId, .request ticket departmentId none ∉ s.log

/-! ## The answers in the log -/

theorem not_mem_staffSteps {b : Browser} {move : Browser × List Fetch} {ticket : Ticket} {departmentId : String}
    {answer : Except String (List Employee)} : .request ticket departmentId (some answer) ∉ staffSteps b move := by
  intro h
  unfold staffSteps at h
  split at h
  · split at h <;> simp at h
  · obtain ⟨fetch, -, hfetch⟩ := List.mem_filterMap.1 h
    cases fetch <;> cases hfetch

/-- The answers that a log has are those of `answers`. -/
def HasAnswers (answers : Nat → Except String (List Employee)) (log : List StaffStep) : Prop :=
  ∀ place ticket departmentId answer,
    log[place]? = some (.request ticket departmentId (some answer)) → answer = answers place

theorem HasAnswers.moved {s : LoggedBrowser} (h : HasAnswers answers s.log) (move : Browser × List Fetch) :
    HasAnswers answers (s.moved move).log := by
  intro place ticket departmentId answer hplace
  rw [LoggedBrowser.moved, List.getElem?_append] at hplace
  split at hplace
  · exact h place ticket departmentId answer hplace
  · exact absurd (List.mem_of_getElem? hplace) not_mem_staffSteps

theorem HasAnswers.after {s : LoggedBrowser} (h : HasAnswers answers s.log) {o : Occurrence}
    (ho : ∀ place answer, o = .staff place answer → answer = answers place) : HasAnswers answers (s.after o).log := by
  cases o with
  | load => exact h.moved _
  | press k =>
    rcases s.after_press k with hsame | ⟨move, -, hafter⟩
    · rw [hsame]
      exact h
    · rw [hafter]
      exact h.moved move
  | forest ticket result => exact h
  | staff place answer =>
    rcases s.after_staff place answer with hsame | ⟨ticket, departmentId, hplace, hafter⟩
    · rw [hsame]
      exact h
    · rw [hafter]
      intro place' ticket' departmentId' answer' hplace'
      by_cases he : place = place'
      · subst he
        obtain ⟨hlt, -⟩ := List.getElem?_eq_some_iff.1 hplace
        rw [List.getElem?_set_self hlt, Option.some.injEq, StaffStep.request.injEq, Option.some.injEq] at hplace'
        rw [← hplace'.2.2]
        exact ho place answer rfl
      · rw [List.getElem?_set_ne he] at hplace'
        exact h place' ticket' departmentId' answer' hplace'

theorem hasAnswers_run {os : List Occurrence} (h : AnsweredBy answers os) : HasAnswers answers (run os).log := by
  induction os using List.reverseRecOn with
  | nil => exact nofun
  | append_singleton os o ih =>
    rw [run_concat]
    refine (ih fun place answer hmem => h place answer (List.mem_append_left _ hmem)).after ?_
    rintro place answer rfl
    exact h place answer (List.mem_append_right _ (List.mem_singleton_self _))

/-! ## What is shown in the end -/

/-- Nothing is awaited, and the staff is what the answer to the last request brought, if a department is
selected, and else there is none. -/
structure Settled (answers : Nat → Except String (List Employee)) (s : LoggedBrowser) : Prop where
  loading : s.browser.staffLoading = false
  /-- The last request was for the department that is selected; a failure is an answer without staff. -/
  department : ∀ id, s.browser.selected = some (deptKey id) → ∃ place ticket, s.log.length = place + 1 ∧
    s.log[place]? = some (.request ticket id (some (answers place))) ∧ s.browser.staff = shownStaff (some (answers place))
  elsewhere : (∀ id, s.browser.selected ≠ some (deptKey id)) → s.browser.staff = []

theorem deptKey_inj {id id' : String} (h : deptKey id = deptKey id') : id = id' :=
  (String.append_right_inj _).1 h

theorem Sound.settled {s : LoggedBrowser} (h : s.Sound) (hanswers : HasAnswers answers s.log) (hall : s.AllAnswered) :
    s.Settled answers := by
  have hshows := h.follows.shows
  rw [List.getLast?_eq_getElem?] at hshows
  cases hlast : s.log[s.log.length - 1]? with
  | none =>
    rw [hlast] at hshows
    obtain ⟨hselected, hstaff, hloading⟩ := hshows
    refine ⟨hloading, fun id hid => ?_, fun _ => hstaff⟩
    cases hselected.symm.trans hid
  | some step =>
    rw [hlast] at hshows
    rcases step with ⟨ticket, departmentId, _ | answer⟩ | _
    · exact absurd (List.mem_of_getElem? hlast) (hall ticket departmentId)
    · obtain ⟨hselected, hstaff, hloading⟩ := hshows
      obtain ⟨hlt, -⟩ := List.getElem?_eq_some_iff.1 hlast
      obtain rfl := hanswers _ ticket departmentId answer hlast
      refine ⟨hloading, fun id hid => ⟨s.log.length - 1, ticket, by omega, ?_, hstaff⟩,
        fun hnone => absurd hselected (hnone departmentId)⟩
      obtain rfl := deptKey_inj (Option.some.inj (hselected.symm.trans hid))
      exact hlast
    · obtain ⟨⟨corpId, hselected⟩, hstaff, hloading⟩ := hshows
      refine ⟨hloading, fun id hid => ?_, fun _ => hstaff⟩
      exact absurd (Option.some.inj (hid.symm.trans hselected)) (deptKey_ne_corpKey id corpId)

/-- Of two runs that show the same apart from staff, with the same log, both show the same staff. -/
theorem Settled.staff_eq {s₁ s₂ : LoggedBrowser} (h₁ : s₁.Settled answers) (h₂ : s₂.Settled answers)
    (hselected : s₁.browser.selected = s₂.browser.selected) (hlog : s₁.log.length = s₂.log.length) :
    s₁.browser.staff = s₂.browser.staff := by
  by_cases hdept : ∃ id, s₁.browser.selected = some (deptKey id)
  · obtain ⟨id, hid⟩ := hdept
    obtain ⟨place, -, hlength, -, hstaff⟩ := h₁.department id hid
    obtain ⟨place', -, hlength', -, hstaff'⟩ := h₂.department id (hselected ▸ hid)
    obtain rfl : place = place' := by omega
    rw [hstaff, hstaff']
  · rw [not_exists] at hdept
    rw [h₁.elsewhere hdept, h₂.elsewhere (hselected ▸ hdept)]

/-- Take two runs with the same keys and organizations. Wherever they are equally far, they differ at most
in staff and status, and they have made the same requests for staff. And if every request has its
answer, the same one in both, they end with the same staff, which is that of the selected department;
as long as no answer comes 2 ^ 64 steps late. -/
theorem reply_order_irrelevant (answers : Nat → Except String (List Employee)) (os₁ os₂ : List Occurrence)
    (hsame : withoutStaff os₁ = withoutStaff os₂) :
    (∀ before₁ before₂, before₁ <+: os₁ → before₂ <+: os₂ → withoutStaff before₁ = withoutStaff before₂ →
        (run before₁).browser.bare = (run before₂).browser.bare ∧
          (run before₁).log.map StaffStep.bare = (run before₂).log.map StaffStep.bare) ∧
      (AnsweredBy answers os₁ → AnsweredBy answers os₂ → InTime os₁ → InTime os₂ →
        (run os₁).AllAnswered → (run os₂).AllAnswered →
        (run os₁).browser.staff = (run os₂).browser.staff ∧
          (run os₁).browser.staffLoading = (run os₂).browser.staffLoading ∧ (run os₁).Settled answers) := by
  have hbare : ∀ {before₁ before₂}, withoutStaff before₁ = withoutStaff before₂ →
      (run before₁).bare = (run before₂).bare := by
    intro before₁ before₂ h
    rw [bare_run before₁, bare_run before₂, h]
  refine ⟨fun before₁ before₂ _ _ h => ⟨congrArg browser (hbare h), congrArg log (hbare h)⟩, ?_⟩
  intro hanswers₁ hanswers₂ hin₁ hin₂ hall₁ hall₂
  have hsettled₁ := (sound_run os₁ hin₁).settled (hasAnswers_run hanswers₁) hall₁
  have hsettled₂ := (sound_run os₂ hin₂).settled (hasAnswers_run hanswers₂) hall₂
  have hselected : (run os₁).bare.browser.selected = (run os₂).bare.browser.selected := by rw [hbare hsame]
  have hlog : (run os₁).bare.log.length = (run os₂).bare.log.length := by rw [hbare hsame]
  refine ⟨hsettled₁.staff_eq hsettled₂ hselected ?_, hsettled₁.loading.trans hsettled₂.loading.symm, hsettled₁⟩
  simpa [bare] using hlog

/-- The department that was left is answered first in one run and last in the other. -/
theorem reply_order_irrelevant_after_return :
    let ann : Employee := ⟨"1", "Ann", none, true⟩
    let bob : Employee := ⟨"2", "Bob", none, true⟩
    let answers (place : Nat) : Except String (List Employee) := .ok (if place = 0 then [bob] else [ann])
    let start : List Occurrence := [.load, .forest ⟨1⟩ (.ok [.dept "7" "Ops", .dept "8" "Eng"]), .press ⟨.char 'j', false⟩]
    let os₁ := start ++ [.staff 0 (answers 0), .press ⟨.char 'k', false⟩, .staff 1 (answers 1)]
    let os₂ := start ++ [.press ⟨.char 'k', false⟩, .staff 1 (answers 1), .staff 0 (answers 0)]
    withoutStaff os₁ = withoutStaff os₂ ∧ (run os₁).browser.staff = (run os₂).browser.staff ∧
      (run os₁).Settled answers ∧ (run os₁).browser.selected = some (deptKey "7") ∧
      (run os₁).browser.staff = [ann] := by
  intro ann bob answers start os₁ os₂
  have hsame : withoutStaff os₁ = withoutStaff os₂ := rfl
  have hanswers₁ : AnsweredBy answers os₁ := by
    intro place answer h
    simp [os₁, start] at h
    rcases h with ⟨rfl, rfl⟩ | ⟨rfl, rfl⟩ <;> rfl
  have hanswers₂ : AnsweredBy answers os₂ := by
    intro place answer h
    simp [os₂, start] at h
    rcases h with ⟨rfl, rfl⟩ | ⟨rfl, rfl⟩ <;> rfl
  have hlog : ∀ os ∈ [os₁, os₂], (run os).log =
      [.request ⟨1⟩ "8" (some (answers 0)), .request ⟨2⟩ "7" (some (answers 1))] := by
    intro os h
    simp only [List.mem_cons, List.not_mem_nil, or_false] at h
    rcases h with rfl | rfl <;> rfl
  have hall : ∀ os ∈ [os₁, os₂], (run os).AllAnswered := by
    intro os h ticket departmentId hmem
    rw [hlog os h] at hmem
    simp at hmem
  obtain ⟨-, hend⟩ := reply_order_irrelevant answers os₁ os₂ hsame
  obtain ⟨hstaff, -, hsettled⟩ := hend hanswers₁ hanswers₂ (inTime_of_length_le (by decide))
    (inTime_of_length_le (by decide)) (hall os₁ (by simp)) (hall os₂ (by simp))
  exact ⟨hsame, hstaff, hsettled, rfl, rfl⟩

end LoggedBrowser

end OrgConsole
