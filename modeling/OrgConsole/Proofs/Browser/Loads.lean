import Mathlib.Data.List.Induction
import OrgConsole.Proofs.Browser.Staff
/-!
# Loading the organization

The browser may ask for the organization again before it was answered, and answers come in any order. An
answer counts only if nothing was asked since. So the answers that count come in the order of their
requests, what is shown is the last of them that brought an organization, and once the last request is
answered no other answer does anything.
-/

namespace OrgConsole

/-! ## What asks for the organization -/

/-- The ticket of a request for the organization. -/
def Fetch.loadTicket? : Fetch → Option Ticket
  | .tree ticket => some ticket
  | .staff _ _ => none

namespace Browser

/-- Selecting asks for no organization. -/
theorem loads_selectCursor (b : Browser) :
    b.selectCursor.2.filterMap Fetch.loadTicket? = [] ∧ b.selectCursor.1.treeRequests = b.treeRequests := by
  rcases b.selectCursor_cases with h | ⟨n, -, -, h⟩
  · rw [h]
    exact ⟨rfl, rfl⟩
  · rw [h, requestStaff]
    cases n.isCorp <;> exact ⟨rfl, rfl⟩

/-- A key asks for no organization, or it is the one that does nothing else. -/
theorem Handled.loads {b : Browser} {move : Browser × List Fetch} (h : b.Handled move) :
    move = b.requestTree ∨
      move.2.filterMap Fetch.loadTicket? = [] ∧ move.1.treeRequests = b.treeRequests := by
  cases h with
  | selected searching keys row =>
    exact .inr (loads_selectCursor { b with searching := searching, expanded := keys, cursor := row })
  | entered pane => exact .inr b.loads_selectCursor
  | loading => exact .inl rfl
  | idle | searched | expanded | left | scrolled => exact .inr ⟨rfl, rfl⟩

/-! ## What replies do -/

theorem treeRequests_receive (b : Browser) (r : Reply) : (b.receive r).treeRequests = b.treeRequests := by
  unfold receive
  split
  · rfl
  · match r with
    | .tree _ (.ok _) | .tree _ (.error _) | .staff _ _ (.ok _) | .staff _ _ (.error _) => rfl

theorem forest_receive_staff (b : Browser) (ticket : Ticket) (departmentId : String)
    (answer : Except String (List Employee)) : (b.receive (.staff ticket departmentId answer)).forest = b.forest := by
  unfold receive
  split
  · rfl
  · cases answer <;> rfl

theorem receive_of_stale {b : Browser} {r : Reply} (h : b.isStale r = true) : b.receive r = b :=
  if_pos h

/-- An organization that counts is shown, and a failure leaves the one that there is. -/
theorem forest_receive_tree {b : Browser} {ticket : Ticket} {result : Except String (List OrgNode)}
    (h : b.isStale (.tree ticket result) = false) :
    (b.receive (.tree ticket result)).forest = result.toOption.getD b.forest := by
  unfold receive
  rw [h]
  cases result <;> rfl

/-- A failure shows in the status and nowhere else. -/
theorem receive_failure (b : Browser) (ticket : Ticket) (why : String) :
    { b.receive (.tree ticket (.error why)) with status := b.status } = b := by
  unfold receive
  split <;> rfl

end Browser

/-! ## Runs -/

/-- An answer to the request for the organization that stands at a place among those. -/
structure LoadAnswer where
  place : Nat
  ticket : Ticket
  result : Except String (List OrgNode)
  /-- Nothing had been asked since. -/
  counted : Bool

/-- Something that happens to a browser, where organizations come for requests that were made. -/
inductive LoadOccurrence
  | load
  | press (k : KeyPress)
  /-- Any reply about staff. -/
  | staff (ticket : Ticket) (departmentId : String) (answer : Except String (List Employee))
  /-- The request at a place is answered. -/
  | forest (place : Nat) (result : Except String (List OrgNode))

/-- A browser with its requests for the organization and with the answers that it got, in order. -/
structure LoadingBrowser where
  browser : Browser
  requests : List Ticket
  answers : List LoadAnswer

namespace LoadingBrowser

def new : LoadingBrowser := ⟨.new, [], []⟩

def moved (s : LoadingBrowser) (move : Browser × List Fetch) : LoadingBrowser :=
  ⟨move.1, s.requests ++ move.2.filterMap Fetch.loadTicket?, s.answers⟩

/-- The answer that a reply is. -/
def answer (s : LoadingBrowser) (place : Nat) (ticket : Ticket) (result : Except String (List OrgNode)) : LoadAnswer :=
  ⟨place, ticket, result, !s.browser.isStale (.tree ticket result)⟩

def isAnswered (s : LoadingBrowser) (place : Nat) : Bool :=
  s.answers.any (·.place = place)

def answered (s : LoadingBrowser) (place : Nat) (ticket : Ticket) (result : Except String (List OrgNode)) :
    LoadingBrowser :=
  ⟨s.browser.receive (.tree ticket result), s.requests, s.answers ++ [s.answer place ticket result]⟩

/-- What comes of it when something happens. A key that ends the browser changes nothing, and a request is
answered only once. -/
def after (s : LoadingBrowser) : LoadOccurrence → LoadingBrowser
  | .load => s.moved s.browser.requestTree
  | .press k => (s.browser.press k).elim s s.moved
  | .staff ticket departmentId result => { s with browser := s.browser.receive (.staff ticket departmentId result) }
  | .forest place result =>
    match s.requests[place]? with
    | some ticket =>
      if s.isAnswered place then s else s.answered place ticket result
    | none => s

/-- What a new browser lives through. -/
def run (os : List LoadOccurrence) : LoadingBrowser :=
  os.foldl after new

theorem run_concat (os : List LoadOccurrence) (o : LoadOccurrence) : run (os ++ [o]) = (run os).after o := by
  simp [run]

/-- No request is answered when 2 ^ 64 others were made after it: its ticket then names the last of those. -/
def InTime (os : List LoadOccurrence) : Prop :=
  ∀ before place result rest, os = before ++ .forest place result :: rest →
    (run before).requests.length ≤ place + 2 ^ 64

/-- The answers that counted. -/
def counted (s : LoadingBrowser) : List LoadAnswer :=
  s.answers.filter (·.counted)

/-- The last organization among answers. -/
def lastForest (answers : List LoadAnswer) : List OrgNode :=
  (answers.filterMap (·.result.toOption)).getLast?.getD []

/-! ## What holds all along -/

/-- What carries the statements about organizations through a run. -/
structure Sound (s : LoadingBrowser) : Prop where
  latest : s.browser.treeRequests.latest = UInt64.ofNat s.requests.length
  numbered : ∀ place ticket, s.requests[place]? = some ticket → ticket.number = UInt64.ofNat (place + 1)
  made : ∀ a ∈ s.answers, s.requests[a.place]? = some a.ticket
  ordered : s.counted.Pairwise (·.place < ·.place)
  /-- The answer to the last request counted, and none after it did. -/
  last : ∀ a ∈ s.answers, a.place + 1 = s.requests.length → s.counted.getLast? = some a
  shown : s.browser.forest = lastForest s.counted

theorem sound_new : new.Sound where
  latest := rfl
  numbered := nofun
  made := nofun
  ordered := .nil
  last := nofun
  shown := rfl

variable {s : LoadingBrowser}

theorem Sound.place_lt (h : s.Sound) {a : LoadAnswer} (ha : a ∈ s.answers) : a.place < s.requests.length :=
  (List.getElem?_eq_some_iff.1 (h.made a ha)).1

/-- One more request takes the next number, and no answer is the last any more. -/
theorem Sound.requestTree (h : s.Sound) : (s.moved s.browser.requestTree).Sound := by
  have hlatest : s.browser.treeRequests.latest + 1 = UInt64.ofNat (s.requests.length + 1) := by
    rw [h.latest, UInt64.ofNat_add]
    rfl
  have hrequests : (s.moved s.browser.requestTree).requests =
      s.requests ++ [⟨s.browser.treeRequests.latest + 1⟩] := rfl
  refine ⟨?latest, ?numbered, ?made, h.ordered, ?last, h.shown⟩
  case latest =>
    rw [hrequests, List.length_append]
    exact hlatest
  case numbered =>
    intro place ticket hplace
    rw [hrequests] at hplace
    rcases Nat.lt_trichotomy place s.requests.length with hlt | rfl | hlt
    · rw [List.getElem?_append_left hlt] at hplace
      exact h.numbered place ticket hplace
    · rw [List.getElem?_concat_length, Option.some.injEq] at hplace
      rw [← hplace]
      exact hlatest
    · rw [List.getElem?_eq_none (by rw [List.length_append]; exact hlt)] at hplace
      cases hplace
  case made =>
    intro a ha
    rw [hrequests, List.getElem?_append_left (h.place_lt ha)]
    exact h.made a ha
  case last =>
    intro a ha hlast
    have hlt := h.place_lt ha
    rw [hrequests, List.length_append, List.length_singleton] at hlast
    omega

theorem Sound.moved (h : s.Sound) {move : Browser × List Fetch} (hmove : s.browser.Handled move) :
    (s.moved move).Sound := by
  rcases hmove.loads with rfl | ⟨hnone, hsame⟩
  · exact h.requestTree
  · have hrequests : (s.moved move).requests = s.requests := by
      rw [LoadingBrowser.moved, hnone, List.append_nil]
    have hforest : (s.moved move).browser.forest = s.browser.forest := hmove.forest_view.1
    refine ⟨?_, ?_, ?_, h.ordered, ?_, hforest.trans h.shown⟩
    · rw [hrequests]
      exact (congrArg RequestSequence.latest hsame).trans h.latest
    · rw [hrequests]
      exact h.numbered
    · rw [hrequests]
      exact h.made
    · rw [hrequests]
      exact h.last

/-! ## Answers -/

theorem isAnswered_eq_false {place : Nat} (h : s.isAnswered place = false) : ∀ a ∈ s.answers, a.place ≠ place := by
  intro a ha
  have hne := List.any_eq_false.1 h a ha
  simpa using hne

theorem lastForest_concat (answers : List LoadAnswer) (a : LoadAnswer) :
    lastForest (answers ++ [a]) = a.result.toOption.getD (lastForest answers) := by
  unfold lastForest
  rw [List.filterMap_append]
  cases h : a.result.toOption with
  | none => simp [h]
  | some forest => simp [h]

section

variable {place : Nat} {ticket : Ticket}

theorem Sound.isCurrent_iff (h : s.Sound) (hplace : s.requests[place]? = some ticket) :
    s.browser.treeRequests.isCurrent ticket = true ↔ s.requests.length % 2 ^ 64 = (place + 1) % 2 ^ 64 :=
  RequestSequence.isCurrent_iff_mod h.latest (h.numbered place ticket hplace)

/-- An answer counts if it is in time and nothing was asked since. -/
theorem Sound.isStale_eq (h : s.Sound) (hplace : s.requests[place]? = some ticket)
    (hlate : s.requests.length ≤ place + 2 ^ 64) (result : Except String (List OrgNode)) :
    s.browser.isStale (.tree ticket result) = decide (place + 1 ≠ s.requests.length) := by
  obtain ⟨hlt, -⟩ := List.getElem?_eq_some_iff.1 hplace
  rw [Browser.isStale, Bool.eq_iff_iff, Bool.not_eq_true', Bool.eq_false_iff, ne_eq, h.isCurrent_iff hplace,
    decide_eq_true_iff]
  omega

theorem counted_answered (s : LoadingBrowser) (place : Nat) (ticket : Ticket) (result : Except String (List OrgNode)) :
    (s.answered place ticket result).counted =
      s.counted ++ if s.browser.isStale (.tree ticket result) then [] else [s.answer place ticket result] := by
  rw [counted, answered, List.filter_append, counted, answer]
  cases s.browser.isStale (.tree ticket result) <;> rfl

theorem Sound.answered (h : s.Sound) (hplace : s.requests[place]? = some ticket)
    (hlate : s.requests.length ≤ place + 2 ^ 64) (hfirst : s.isAnswered place = false)
    (result : Except String (List OrgNode)) : (s.answered place ticket result).Sound := by
  have hstale := h.isStale_eq hplace hlate result
  have hcounted := counted_answered s place ticket result
  have hne := isAnswered_eq_false hfirst
  have hmem : ∀ a ∈ (s.answered place ticket result).answers, a ∈ s.answers ∨ a = s.answer place ticket result :=
    fun a ha => (List.mem_append.1 ha).imp_right List.mem_singleton.1
  have hmade : ∀ a ∈ (s.answered place ticket result).answers, s.requests[a.place]? = some a.ticket := by
    intro a ha
    rcases hmem a ha with ha | rfl
    · exact h.made a ha
    · exact hplace
  have hlatest : (s.answered place ticket result).browser.treeRequests.latest = UInt64.ofNat s.requests.length := by
    rw [LoadingBrowser.answered, Browser.treeRequests_receive]
    exact h.latest
  by_cases hlast : place + 1 = s.requests.length
  · -- The answer counts, and those that counted before were to earlier requests.
    rw [decide_eq_false (not_not_intro hlast)] at hstale
    rw [hstale, if_neg Bool.false_ne_true] at hcounted
    refine ⟨hlatest, h.numbered, hmade, ?_, fun a ha hplace' => ?_, ?_⟩
    · rw [hcounted, List.pairwise_append]
      refine ⟨h.ordered, List.pairwise_singleton _ _, fun a ha a' ha' => ?_⟩
      rw [List.mem_singleton.1 ha']
      have ha := (List.mem_filter.1 ha).1
      have hlt := h.place_lt ha
      have hother := hne a ha
      show a.place < place
      omega
    · rw [hcounted, List.getLast?_concat]
      rcases hmem a ha with ha | rfl
      · have hother := hne a ha
        have hplace' : a.place + 1 = s.requests.length := hplace'
        omega
      · rfl
    · rw [hcounted, lastForest_concat, ← h.shown]
      exact Browser.forest_receive_tree hstale
  · -- The answer is dropped.
    rw [decide_eq_true hlast] at hstale
    rw [hstale, if_pos rfl, List.append_nil] at hcounted
    refine ⟨hlatest, h.numbered, hmade, hcounted ▸ h.ordered, fun a ha hplace' => ?_, ?_⟩
    · rw [hcounted]
      rcases hmem a ha with ha | rfl
      · exact h.last a ha hplace'
      · exact absurd hplace' hlast
    · rw [hcounted, LoadingBrowser.answered, Browser.receive_of_stale hstale]
      exact h.shown

end

/-! ## Runs -/

theorem after_press (s : LoadingBrowser) (k : KeyPress) :
    s.after (.press k) = s ∨ ∃ move, s.browser.Handled move ∧ s.after (.press k) = s.moved move := by
  rcases s.browser.press_cases k with hnone | hsome
  · simp only [after, hnone]
    exact .inl rfl
  · simp only [after, hsome]
    exact .inr ⟨_, s.browser.handled_handle k.key, rfl⟩

theorem after_forest (s : LoadingBrowser) (place : Nat) (result : Except String (List OrgNode)) :
    s.after (.forest place result) = s ∨
      ∃ ticket, s.requests[place]? = some ticket ∧ s.isAnswered place = false ∧
        s.after (.forest place result) = s.answered place ticket result := by
  simp only [after]
  split
  · rename_i ticket hticket
    split
    · exact .inl rfl
    · rename_i hfirst
      exact .inr ⟨ticket, hticket, Bool.eq_false_iff.2 hfirst, rfl⟩
  · exact .inl rfl

/-- Whatever happens, the browser stays sound, if no answer is too late. -/
theorem Sound.after (h : s.Sound) (o : LoadOccurrence)
    (hlate : ∀ place result, o = .forest place result → s.requests.length ≤ place + 2 ^ 64) : (s.after o).Sound := by
  cases o with
  | load => exact h.requestTree
  | press k =>
    rcases s.after_press k with hsame | ⟨move, hmove, hafter⟩
    · rw [hsame]
      exact h
    · rw [hafter]
      exact h.moved hmove
  | staff ticket departmentId answer =>
    have hlatest : (s.browser.receive (.staff ticket departmentId answer)).treeRequests = s.browser.treeRequests :=
      s.browser.treeRequests_receive _
    have hforest := s.browser.forest_receive_staff ticket departmentId answer
    exact ⟨(congrArg RequestSequence.latest hlatest).trans h.latest, h.numbered, h.made, h.ordered, h.last,
      hforest.trans h.shown⟩
  | forest place result =>
    rcases s.after_forest place result with hsame | ⟨ticket, hplace, hfirst, hafter⟩
    · rw [hsame]
      exact h
    · rw [hafter]
      exact h.answered hplace (hlate place result rfl) hfirst result

theorem sound_run {os : List LoadOccurrence} (h : InTime os) : (run os).Sound := by
  induction os using List.reverseRecOn with
  | nil => exact sound_new
  | append_singleton os o ih =>
    have hinit : InTime os := by
      intro before place result rest he
      refine h before place result (rest ++ [o]) ?_
      rw [he, List.append_assoc, List.cons_append]
    rw [run_concat]
    refine (ih hinit).after o ?_
    rintro place result rfl
    exact h os place result [] rfl

theorem length_requests_after_le (s : LoadingBrowser) (o : LoadOccurrence) :
    (s.after o).requests.length ≤ s.requests.length + 1 := by
  cases o with
  | load => exact Nat.le_of_eq List.length_append
  | press k =>
    rcases s.after_press k with hsame | ⟨move, hmove, hafter⟩
    · rw [hsame]
      exact Nat.le_succ _
    · rw [hafter]
      rcases hmove.loads with rfl | ⟨hnone, -⟩
      · exact Nat.le_of_eq List.length_append
      · rw [LoadingBrowser.moved, hnone, List.append_nil]
        exact Nat.le_succ _
  | staff => exact Nat.le_succ _
  | forest place result =>
    rcases s.after_forest place result with hsame | ⟨ticket, -, -, hafter⟩
    · rw [hsame]
      exact Nat.le_succ _
    · rw [hafter]
      exact Nat.le_succ _

theorem length_requests_run_le (os : List LoadOccurrence) : (run os).requests.length ≤ os.length := by
  have hlength := size_foldl_le (·.requests.length) length_requests_after_le new os
  rwa [show new.requests.length = 0 from rfl, Nat.zero_add] at hlength

/-- In a run of at most 2 ^ 64 occurrences no answer is late. -/
theorem inTime_of_length_le {os : List LoadOccurrence} (h : os.length ≤ 2 ^ 64) : InTime os := by
  intro before place result rest he
  have hbefore : before.length ≤ os.length := by
    rw [he, List.length_append]
    exact Nat.le_add_right _ _
  have hrequests := length_requests_run_le before
  omega

/-! ## What is shown in the end -/

/-- What can be said of the organization, in whatever order answers come. -/
structure LatestShown (s : LoadingBrowser) : Prop where
  /-- Answers that count come in the order of their requests, and so do their tickets. -/
  ordered : s.counted.Pairwise (·.place < ·.place)
  tickets : s.requests.length < 2 ^ 64 → s.counted.Pairwise (·.ticket.number < ·.ticket.number)
  shown : s.browser.forest = lastForest s.counted
  failure : ∀ ticket why, { s.browser.receive (.tree ticket (.error why)) with status := s.browser.status } = s.browser
  /-- After the answer to the last request no other that is in time changes anything, and what it brought is
  shown. -/
  settled : ∀ a ∈ s.answers, a.place + 1 = s.requests.length →
    (∀ place result, s.requests.length ≤ place + 2 ^ 64 → (s.after (.forest place result)).browser = s.browser) ∧
      ∀ forest, a.result = .ok forest → s.browser.forest = forest

theorem Sound.tickets (h : s.Sound) (hfew : s.requests.length < 2 ^ 64) :
    s.counted.Pairwise (·.ticket.number < ·.ticket.number) := by
  have hnumber : ∀ a ∈ s.counted, a.ticket.number.toNat = a.place + 1 := by
    intro a ha
    have ha := (List.mem_filter.1 ha).1
    have hlt := h.place_lt ha
    rw [h.numbered a.place a.ticket (h.made a ha), UInt64.toNat_ofNat']
    exact Nat.mod_eq_of_lt (by omega)
  refine h.ordered.imp_of_mem fun {a a'} ha ha' hlt => ?_
  rw [UInt64.lt_iff_toNat_lt, hnumber a ha, hnumber a' ha']
  omega

theorem Sound.settled (h : s.Sound) {a : LoadAnswer} (ha : a ∈ s.answers) (hlast : a.place + 1 = s.requests.length) :
    (∀ place result, s.requests.length ≤ place + 2 ^ 64 → (s.after (.forest place result)).browser = s.browser) ∧
      ∀ forest, a.result = .ok forest → s.browser.forest = forest := by
  refine ⟨fun place result hlate => ?_, fun forest hforest => ?_⟩
  · rcases s.after_forest place result with hsame | ⟨ticket, hplace, hfirst, hafter⟩
    · rw [hsame]
    · have hother := isAnswered_eq_false hfirst a ha
      have hstale := h.isStale_eq hplace hlate result
      rw [decide_eq_true (by omega)] at hstale
      rw [hafter]
      exact Browser.receive_of_stale hstale
  · obtain ⟨before, hcounted⟩ := List.getLast?_eq_some_iff.1 (h.last a ha hlast)
    rw [h.shown, hcounted, lastForest_concat, hforest]
    rfl

/-- In every run the organization that is shown is the last one that came for the latest request by then, as long
as no answer comes 2 ^ 64 requests late. -/
theorem latest_load_shown (os : List LoadOccurrence) (h : InTime os) : (run os).LatestShown := by
  have hsound := sound_run h
  exact {
    ordered := hsound.ordered
    tickets := hsound.tickets
    shown := hsound.shown
    failure := (run os).browser.receive_failure
    settled := fun _ ha hlast => hsound.settled ha hlast }

/-- Two requests are answered the other way round, with a failure about the second, and then there is a third. -/
theorem latest_load_shown_out_of_order :
    let org (title : String) : List OrgNode := buildForest [.dept "7" title]
    let os : List LoadOccurrence := [.load, .forest 0 (.ok (org "Ops")), .press ⟨.char 'r', false⟩,
      .press ⟨.char 'r', false⟩, .forest 2 (.error "timed out"), .press ⟨.char 'j', false⟩, .forest 1 (.ok (org "Old"))]
    let os' := os ++ [.load, .forest 3 (.ok (org "New"))]
    InTime os ∧ InTime os' ∧ (run os).LatestShown ∧ (run os').LatestShown ∧
      (run os).counted.map (·.place) = [0, 2] ∧ (run os).browser.forest.map (·.label.title) = ["Ops"] ∧
      (run os').counted.map (·.place) = [0, 2, 3] ∧ (run os').browser.forest.map (·.label.title) = ["New"] := by
  intro org os os'
  have h : InTime os := inTime_of_length_le (by decide)
  have h' : InTime os' := inTime_of_length_le (by decide)
  exact ⟨h, h', latest_load_shown os h, latest_load_shown os' h', by decide +kernel⟩

end LoadingBrowser

end OrgConsole
