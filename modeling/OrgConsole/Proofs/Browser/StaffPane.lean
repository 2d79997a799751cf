import OrgConsole.Proofs.Browser.Run
import OrgConsole.Proofs.Ticket.Currency
/-!
# The staff pane

What a browser knows about staff follows its log: the number of the latest request counts the steps
about staff, every request carries its own place in that count, and the selection is what the last
step was made for. Keys and replies keep it so.
-/

namespace OrgConsole

/-- What a browser knows about staff. -/
structure StaffPane where
  selected : Option String
  staff : List Employee
  staffLoading : Bool
  scroll : Nat
  staffRequests : RequestSequence

def Browser.staffPane (b : Browser) : StaffPane :=
  ⟨b.selected, b.staff, b.staffLoading, b.scroll, b.staffRequests⟩

/-- The staff that an answer lets the browser show. -/
def shownStaff : Option (Except String (List Employee)) → List Employee
  | some (.ok staff) => staff
  | _ => []

/-! ## What a key does about staff -/

/-- What a key does about staff, in sight of a forest, with the steps that the log notes. -/
inductive StaffOutcome (view : List OrgNode) (p : StaffPane) : StaffPane → List StaffStep → Prop
  | kept (scroll : Nat) (h : scroll ≤ p.scroll ∨ scroll < p.staff.length) :
      StaffOutcome view p { p with scroll := scroll } []
  | withdrawn (n : NodeInfo) (hn : n ∈ Tree.labels view) (hcorp : n.isCorp = true) :
      StaffOutcome view p ⟨some n.key, [], false, 0, p.staffRequests.invalidate⟩ [.withdrawal]
  | asked (n : NodeInfo) (hn : n ∈ Tree.labels view) (hdept : n.isCorp = false) :
      StaffOutcome view p ⟨some n.key, [], true, 0, p.staffRequests.issue.2⟩
        [.request p.staffRequests.issue.1 n.id none]

theorem StaffOutcome.length_le {view : List OrgNode} {p p' : StaffPane} {steps : List StaffStep}
    (h : StaffOutcome view p p' steps) : steps.length ≤ 1 := by
  cases h <;> simp

/-- A move that asks for no staff and leaves the rest of the pane alone may scroll it. -/
theorem outcome_of_scroll {b b' : Browser} {fetches : List Fetch} {rows : Nat}
    (hpane : b'.staffPane = { b.staffPane with scroll := rows }) (hrows : rows ≤ b.scroll ∨ rows < b.staff.length)
    (hfetches : fetches.filterMap Fetch.staffStep? = []) :
    StaffOutcome b.view b.staffPane b'.staffPane (staffSteps b (b', fetches)) := by
  have hrequests : b'.staffRequests = b.staffRequests := congrArg StaffPane.staffRequests hpane
  rw [staffSteps, hfetches, hpane]
  simp only [hrequests, if_true]
  exact .kept rows hrows

theorem outcome_selectCursor (b : Browser) :
    StaffOutcome b.view b.staffPane b.selectCursor.1.staffPane (staffSteps b b.selectCursor) := by
  rcases b.selectCursor_cases with h | ⟨n, hn, -, h⟩
  · rw [h]
    exact outcome_of_scroll rfl (.inl (Nat.le_refl _)) rfl
  · rw [h, Browser.requestStaff]
    cases hcorp : n.isCorp with
    | true =>
      have hsteps : b.staffRequests.invalidate ≠ b.staffRequests := by
        intro he
        have hzero := UInt64.add_eq_left.1 (congrArg RequestSequence.latest he)
        cases hzero
      simp only [if_true, staffSteps, List.filterMap_nil, if_neg hsteps]
      exact .withdrawn n hn hcorp
    | false => exact .asked n hn hcorp

theorem outcome_of_handled {b : Browser} {move : Browser × List Fetch} (h : b.Handled move) :
    StaffOutcome b.view b.staffPane move.1.staffPane (staffSteps b move) := by
  cases h with
  | selected searching keys row =>
    exact outcome_selectCursor { b with searching := searching, expanded := keys, cursor := row }
  | entered pane => exact outcome_selectCursor b
  | scrolled rows h => exact outcome_of_scroll rfl h rfl
  | idle | searched | expanded | left | loading => exact outcome_of_scroll rfl (.inl (Nat.le_refl _)) rfl

/-! ## What the pane shows -/

/-- Every request carries its place in the log, counted from one. -/
def Numbered (log : List StaffStep) : Prop :=
  ∀ (place : Nat) (ticket : Ticket) (departmentId : String) (answer : Option (Except String (List Employee))),
    log[place]? = some (.request ticket departmentId answer) → ticket.number = UInt64.ofNat (place + 1)

theorem Numbered.concat {log : List StaffStep} {step : StaffStep} (h : Numbered log)
    (hstep : ∀ ticket departmentId answer,
      step = .request ticket departmentId answer → ticket.number = UInt64.ofNat (log.length + 1)) :
    Numbered (log ++ [step]) := by
  intro place ticket departmentId answer hplace
  rcases Nat.lt_trichotomy place log.length with hlt | rfl | hlt
  · rw [List.getElem?_append_left hlt] at hplace
    exact h place ticket departmentId answer hplace
  · rw [List.getElem?_concat_length, Option.some.injEq] at hplace
    exact hstep ticket departmentId answer hplace
  · rw [List.getElem?_eq_none (by rw [List.length_append]; exact hlt)] at hplace
    cases hplace

theorem Numbered.answered {log : List StaffStep} {place : Nat} {ticket : Ticket} {departmentId : String}
    {answer : Option (Except String (List Employee))} (h : Numbered log)
    (hplace : log[place]? = some (.request ticket departmentId answer))
    (answer' : Option (Except String (List Employee))) :
    Numbered (log.set place (.request ticket departmentId answer')) := by
  intro place' ticket' departmentId' answer'' hplace'
  by_cases he : place = place'
  · subst he
    obtain ⟨hlt, -⟩ := List.getElem?_eq_some_iff.1 hplace
    rw [List.getElem?_set_self hlt, Option.some.injEq, StaffStep.request.injEq] at hplace'
    rw [← hplace'.1]
    exact h place ticket departmentId answer hplace
  · rw [List.getElem?_set_ne he] at hplace'
    exact h place' ticket' departmentId' answer'' hplace'

namespace StaffPane

/-- What is shown after the last step about staff. -/
def Shows (p : StaffPane) : Option StaffStep → Prop
  | none => p.selected = none ∧ p.staff = [] ∧ p.staffLoading = false
  | some .withdrawal => (∃ id, p.selected = some (corpKey id)) ∧ p.staff = [] ∧ p.staffLoading = false
  | some (.request _ departmentId answer) =>
    p.selected = some (deptKey departmentId) ∧ p.staff = shownStaff answer ∧ p.staffLoading = answer.isNone

variable {p : StaffPane} {last : Option StaffStep}

/-- Staff that is shown is the answer to a request for the selected department. -/
theorem Shows.staff (h : p.Shows last) (hne : p.staff ≠ []) :
    ∃ ticket departmentId, p.selected = some (deptKey departmentId) ∧
      last = some (.request ticket departmentId (some (.ok p.staff))) := by
  rcases last with _ | ⟨ticket, departmentId, answer⟩ | _
  · exact absurd h.2.1 hne
  · obtain ⟨hselected, hstaff, -⟩ := h
    refine ⟨ticket, departmentId, hselected, ?_⟩
    rcases answer with _ | why | staff
    · exact absurd hstaff hne
    · exact absurd hstaff hne
    · rw [hstaff]
      rfl
  · exact absurd h.2.1 hne

theorem Shows.staff_eq_nil (h : p.Shows last)
    (hselected : p.selected = none ∨ ∃ corpId, p.selected = some (corpKey corpId)) : p.staff = [] := by
  refine Decidable.byContradiction fun hne => ?_
  obtain ⟨ticket, departmentId, hdept, -⟩ := h.staff hne
  rw [hdept] at hselected
  rcases hselected with hnone | ⟨corpId, hcorp⟩
  · cases hnone
  · exact deptKey_ne_corpKey departmentId corpId (Option.some.inj hcorp)

theorem Shows.loading_iff (h : p.Shows last) :
    p.staffLoading = true ↔ ∃ ticket departmentId, last = some (.request ticket departmentId none) := by
  rcases last with _ | ⟨ticket, departmentId, answer⟩ | _
  · rw [h.2.2]
    simp
  · rw [h.2.2, Option.isNone_iff_eq_none]
    constructor
    · rintro rfl
      exact ⟨ticket, departmentId, rfl⟩
    · rintro ⟨_, _, hrequest⟩
      cases hrequest
      rfl
  · rw [h.2.2]
    simp

/-- The scrolling stays within the staff. -/
def ScrollsInRange (p : StaffPane) : Prop :=
  p.scroll = 0 ∨ p.scroll < p.staff.length

/-- The pane is what the log makes of it. -/
structure Follows (p : StaffPane) (log : List StaffStep) : Prop where
  shows : p.Shows log.getLast?
  scroll : p.ScrollsInRange
  latest : p.staffRequests.latest = UInt64.ofNat log.length
  numbered : Numbered log

variable {p' : StaffPane} {log steps : List StaffStep}

theorem Follows.invalidate (h : p.Follows log) :
    p.staffRequests.invalidate.latest = UInt64.ofNat (log.length + 1) := by
  rw [RequestSequence.invalidate, h.latest, UInt64.ofNat_add]
  rfl

/-- An answer is no step of its own. -/
theorem Follows.latest_set (h : p.Follows log) (place : Nat) (step : StaffStep) :
    p.staffRequests.latest = UInt64.ofNat (log.set place step).length := by
  rw [List.length_set]
  exact h.latest

/-- A key leaves the pane what the log makes of it, as the nodes in sight tell kind and id by their
keys. -/
theorem Follows.outcome {view : List OrgNode} (h : p.Follows log) (hview : Keyed view)
    (hout : StaffOutcome view p p' steps) : p'.Follows (log ++ steps) := by
  have hlatest := h.invalidate
  cases hout with
  | kept scroll hscroll =>
    rw [List.append_nil]
    refine ⟨h.shows, ?_, h.latest, h.numbered⟩
    rcases hscroll with hle | hlt
    · rcases h.scroll with hzero | hlt
      · exact .inl (Nat.le_zero.1 (hzero ▸ hle))
      · exact .inr (Nat.lt_of_le_of_lt hle hlt)
    · exact .inr hlt
  | withdrawn n hn hcorp =>
    have hkind : n.kind = .corp := of_decide_eq_true hcorp
    refine ⟨?_, .inl rfl, ?_, h.numbered.concat nofun⟩
    · rw [List.getLast?_concat]
      refine ⟨⟨n.id, congrArg some ?_⟩, rfl, rfl⟩
      rw [hview n hn, hkind]
      rfl
    · rw [List.length_append]
      exact hlatest
  | asked n hn hdept =>
    have hkind : n.kind = .dept := by
      cases hk : n.kind with
      | dept => rfl
      | corp => exact absurd hk (of_decide_eq_false hdept)
    refine ⟨?_, .inl rfl, ?_, h.numbered.concat ?_⟩
    · rw [List.getLast?_concat]
      refine ⟨congrArg some ?_, rfl, rfl⟩
      rw [hview n hn, hkind]
      rfl
    · rw [List.length_append]
      exact hlatest
    · intro ticket departmentId answer hstep
      cases hstep
      exact hlatest

end StaffPane

/-! ## What a reply does about staff -/

variable {b : Browser} {log : List StaffStep} {place : Nat} {ticket : Ticket} {departmentId : String}

/-- A ticket counts if its place is that of the latest step, as far as 64 bits can tell. -/
theorem isCurrent_iff (h : b.staffPane.Follows log) (hplace : log[place]? = some (.request ticket departmentId none)) :
    b.staffRequests.isCurrent ticket = true ↔ log.length % 2 ^ 64 = (place + 1) % 2 ^ 64 :=
  RequestSequence.isCurrent_iff_mod h.latest (h.numbered place ticket departmentId none hplace)

theorem getLast?_set_last {log : List StaffStep} {place : Nat} (h : log.length = place + 1) (step : StaffStep) :
    (log.set place step).getLast? = some step := by
  rw [List.getLast?_eq_getElem?, List.length_set, h, Nat.add_sub_cancel, List.getElem?_set_self (by omega)]

theorem getLast?_set_of_lt {log : List StaffStep} {place : Nat} (h : place + 1 < log.length) (step : StaffStep) :
    (log.set place step).getLast? = log.getLast? := by
  rw [List.getLast?_eq_getElem?, List.getLast?_eq_getElem?, List.length_set, List.getElem?_set_ne (by omega)]

/-- An answer to the last request is shown, from its first row on. -/
theorem follows_receive_last (h : b.staffPane.Follows log)
    (hplace : log[place]? = some (.request ticket departmentId none)) (hlast : log.length = place + 1)
    (answer : Except String (List Employee)) :
    (b.receive (.staff ticket departmentId answer)).staffPane.Follows
      (log.set place (.request ticket departmentId (some answer))) := by
  have hcurrent : b.staffRequests.isCurrent ticket = true := by rw [isCurrent_iff h hplace, hlast]
  have hreceive : b.receive (.staff ticket departmentId answer) = b.accept (.staff ticket departmentId answer) := by
    rw [Browser.receive, Browser.isStale, hcurrent]
    rfl
  have hshows := h.shows
  rw [List.getLast?_eq_getElem?, hlast, Nat.add_sub_cancel, hplace] at hshows
  obtain ⟨hselected, hstaff, -⟩ := hshows
  -- While an answer is awaited there is nothing to scroll, so nothing is scrolled when it comes.
  have hscroll : b.scroll = 0 := by
    rcases h.scroll with hzero | hin
    · exact hzero
    · rw [hstaff] at hin
      cases hin
  have hnumbered := h.numbered.answered hplace (some answer)
  have hlatest := h.latest_set place (.request ticket departmentId (some answer))
  rw [hreceive]
  cases answer with
  | ok staff =>
    refine ⟨?_, .inl hscroll, hlatest, hnumbered⟩
    rw [getLast?_set_last hlast]
    exact ⟨hselected, rfl, rfl⟩
  | error why =>
    refine ⟨?_, .inl hscroll, hlatest, hnumbered⟩
    rw [getLast?_set_last hlast]
    exact ⟨hselected, hstaff, rfl⟩

/-- An answer to an earlier request changes nothing. -/
theorem follows_receive_earlier (h : b.staffPane.Follows log)
    (hplace : log[place]? = some (.request ticket departmentId none)) (hearlier : place + 1 < log.length)
    (hlate : log.length ≤ place + 2 ^ 64) (answer : Except String (List Employee)) :
    (b.receive (.staff ticket departmentId answer)).staffPane.Follows
      (log.set place (.request ticket departmentId (some answer))) := by
  have hstale : b.staffRequests.isCurrent ticket = false := by
    rw [Bool.eq_false_iff, ne_eq, isCurrent_iff h hplace]
    omega
  have hreceive : b.receive (.staff ticket departmentId answer) = b := by
    rw [Browser.receive, Browser.isStale, hstale]
    rfl
  rw [hreceive]
  refine ⟨?_, h.scroll, h.latest_set place _, h.numbered.answered hplace _⟩
  rw [getLast?_set_of_lt hearlier]
  exact h.shows

theorem follows_receive_staff (h : b.staffPane.Follows log)
    (hplace : log[place]? = some (.request ticket departmentId none)) (hlate : log.length ≤ place + 2 ^ 64)
    (answer : Except String (List Employee)) :
    (b.receive (.staff ticket departmentId answer)).staffPane.Follows
      (log.set place (.request ticket departmentId (some answer))) := by
  obtain ⟨hlt, -⟩ := List.getElem?_eq_some_iff.1 hplace
  rcases Nat.eq_or_lt_of_le (Nat.succ_le_of_lt hlt) with hlast | hearlier
  · exact follows_receive_last h hplace hlast.symm answer
  · exact follows_receive_earlier h hplace hearlier hlate answer

end OrgConsole
