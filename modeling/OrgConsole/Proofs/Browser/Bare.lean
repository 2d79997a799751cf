import Mathlib.Data.List.Induction
import OrgConsole.Proofs.Browser.Run
/-!
# What replies about staff leave alone

A reply about staff brings a list or a message, and nothing that the browser does later looks at
either. So the browser can be taken bare of both: what a key makes of it is then what the key makes of
the bare browser, and a run is the run without its replies about staff.
-/

namespace OrgConsole

namespace Browser

/-- The browser without all that a reply about staff can change and without what hangs on that: the
staff, how far it is scrolled, and the status. -/
def bare (b : Browser) : Browser :=
  { b with staff := [], staffLoading := false, scroll := 0, status := "" }

/-- What a move comes to in the bare browser; the requests stay. -/
def bareMove (move : Browser × List Fetch) : Browser × List Fetch :=
  (move.1.bare, move.2)

/-! ## What keys look at -/

section

variable (b : Browser)

@[simp] theorem bare_rows : b.bare.rows = b.rows := rfl

@[simp] theorem bare_cursor : b.bare.cursor = b.cursor := rfl

@[simp] theorem bare_cursorNode? : b.bare.cursorNode? = b.cursorNode? := rfl

@[simp] theorem bare_parentRow? (level : Nat) : b.bare.parentRow? level = b.parentRow? level := rfl

@[simp] theorem bare_expanded : b.bare.expanded = b.expanded := rfl

@[simp] theorem bare_selected : b.bare.selected = b.selected := rfl

@[simp] theorem bare_searching : b.bare.searching = b.searching := rfl

@[simp] theorem bare_pane : b.bare.pane = b.pane := rfl

@[simp] theorem bare_quits (k : KeyPress) : b.bare.quits k = b.quits k := rfl

@[simp] theorem bare_isStale (reply : Reply) : b.bare.isStale reply = b.isStale reply := by cases reply <;> rfl

@[simp] theorem bare_staffRequests : b.bare.staffRequests = b.staffRequests := rfl

end

/-! ## Keys -/

theorem bareMove_requestStaff (n : NodeInfo) (b : Browser) :
    bareMove (b.requestStaff n) = bareMove (b.bare.requestStaff n) := by
  unfold requestStaff
  cases n.isCorp <;> rfl

theorem bareMove_selectCursor (b : Browser) : bareMove b.selectCursor = bareMove b.bare.selectCursor := by
  unfold selectCursor
  rw [bare_cursorNode?]
  cases b.cursorNode? with
  | none => rfl
  | some n =>
    by_cases hsel : b.selected = some n.label.key
    · simp only [bare_selected, hsel, if_true]
      rfl
    · simp only [bare_selected, hsel, if_false]
      exact bareMove_requestStaff n.label { b with selected := some n.label.key }

theorem bareMove_goTo (row : Nat) (b : Browser) : bareMove (b.goTo row) = bareMove (b.bare.goTo row) :=
  bareMove_selectCursor { b with cursor := row }

theorem bareMove_moveDown (b : Browser) : bareMove b.moveDown = bareMove b.bare.moveDown := by
  unfold moveDown
  rw [bare_rows, bare_cursor]
  split
  · exact bareMove_goTo _ b
  · rfl

theorem bareMove_moveUp (b : Browser) : bareMove b.moveUp = bareMove b.bare.moveUp := by
  unfold moveUp
  rw [bare_cursor]
  split
  · exact bareMove_goTo _ b
  · rfl

theorem bare_changeExpanded (f : KeySet → String → KeySet) (b : Browser) :
    (b.changeExpanded f).bare = b.bare.changeExpanded f := by
  unfold changeExpanded
  rw [bare_cursorNode?]
  cases b.cursorNode? with
  | none => rfl
  | some n => cases hchildren : n.hasChildren <;> simp only [hchildren] <;> rfl

theorem bareMove_toggle (b : Browser) : bareMove b.toggle.selectCursor = bareMove b.bare.toggle.selectCursor := by
  rw [bareMove_selectCursor, toggle, bare_changeExpanded]
  rfl

theorem bareMove_collapseOrParent (b : Browser) : bareMove b.collapseOrParent = bareMove b.bare.collapseOrParent := by
  unfold collapseOrParent
  rw [bare_cursorNode?]
  cases b.cursorNode? with
  | none => rfl
  | some n =>
    by_cases hopen : b.expanded.contains n.label.key = true
    · simp only [bare_expanded, hopen, if_true]
      rfl
    · simp only [bare_expanded, hopen, Bool.false_eq_true, if_false, bare_parentRow?]
      cases b.parentRow? n.label.level with
      | none => rfl
      | some row => exact bareMove_goTo row b

theorem bareMove_expand (b : Browser) : bareMove (b.expand, []) = bareMove (b.bare.expand, []) := by
  unfold bareMove expand
  simp only [← bare_changeExpanded]
  rfl

theorem bareMove_enterDetail (b : Browser) : bareMove b.enterDetail = bareMove b.bare.enterDetail := by
  -- Whether the other pane is entered depends on what is selected then, which the bare move still has.
  have hentered : ∀ b : Browser, bareMove b.enterDetail =
      (if (bareMove b.selectCursor).1.selected.isSome then { (bareMove b.selectCursor).1 with pane := .detail }
        else (bareMove b.selectCursor).1, (bareMove b.selectCursor).2) := by
    intro b
    have hselected : (bareMove b.selectCursor).1.selected = b.selectCursor.1.selected := rfl
    simp only [hselected, enterDetail]
    cases b.selectCursor.1.selected.isSome <;> rfl
  rw [hentered b, hentered b.bare, bareMove_selectCursor b]

theorem bareMove_pressSearching (key : Key) (b : Browser) :
    bareMove (b.pressSearching key) = bareMove (b.bare.pressSearching key) := by
  unfold pressSearching
  split
  · rfl
  · exact bareMove_goTo 0 { b with searching := false }
  · rfl
  · rfl
  · rfl

theorem bareMove_pressTree (key : Key) (b : Browser) :
    bareMove (b.pressTree key) = bareMove (b.bare.pressTree key) := by
  unfold pressTree
  split
  iterate 2 exact bareMove_moveDown b
  iterate 2 exact bareMove_moveUp b
  iterate 2 exact bareMove_toggle b
  iterate 2 exact bareMove_expand b
  iterate 2 exact bareMove_collapseOrParent b
  · exact bareMove_enterDetail b
  · rfl
  · rfl
  · rfl

theorem bare_pressDetail (key : Key) (b : Browser) : (b.pressDetail key).bare = (b.bare.pressDetail key).bare := by
  unfold pressDetail
  split
  iterate 4 rfl
  iterate 2
    split <;> rfl
  iterate 2 rfl
  · rfl

theorem bareMove_handle (key : Key) (b : Browser) : bareMove (b.handle key) = bareMove (b.bare.handle key) := by
  unfold handle
  rw [bare_searching, bare_pane]
  split
  · exact bareMove_pressSearching key b
  · cases b.pane with
    | tree => exact bareMove_pressTree key b
    | detail => exact Prod.ext (bare_pressDetail key b) rfl

/-! ## Replies -/

/-- A reply with an organization does in the bare browser what it does. -/
theorem bare_receive_tree (ticket : Ticket) (result : Except String (List OrgNode)) (b : Browser) :
    (b.receive (.tree ticket result)).bare = (b.bare.receive (.tree ticket result)).bare := by
  unfold receive
  rw [bare_isStale]
  split
  · rfl
  · cases result <;> rfl

/-- A reply about staff does nothing to the bare browser. -/
theorem bare_receive_staff (ticket : Ticket) (departmentId : String) (answer : Except String (List Employee))
    (b : Browser) : (b.receive (.staff ticket departmentId answer)).bare = b.bare := by
  unfold receive
  split
  · rfl
  · cases answer <;> rfl

end Browser

/-! ## Runs -/

/-- A step without its answer. -/
def StaffStep.bare : StaffStep → StaffStep
  | .request ticket departmentId _ => .request ticket departmentId none
  | .withdrawal => .withdrawal

def Occurrence.isStaff : Occurrence → Bool
  | .staff .. => true
  | _ => false

/-- What happens to a browser apart from replies about staff. -/
def withoutStaff (os : List Occurrence) : List Occurrence :=
  os.filter (!·.isStaff)

/-- What a move did about staff has no answers yet, and it is the same for the bare move. -/
theorem staffSteps_bare {b : Browser} {move move' : Browser × List Fetch}
    (h : Browser.bareMove move = Browser.bareMove move') :
    (staffSteps b move).map StaffStep.bare = (staffSteps b.bare move').map StaffStep.bare := by
  have hfetches : move.2 = move'.2 := (Prod.ext_iff.1 h).2
  have hbrowser : move.1.bare = move'.1.bare := (Prod.ext_iff.1 h).1
  have hrequests := congrArg Browser.staffRequests hbrowser
  rw [Browser.bare_staffRequests, Browser.bare_staffRequests] at hrequests
  have hsteps : staffSteps b move = staffSteps b.bare move' := by
    rw [staffSteps, staffSteps, hfetches, hrequests, Browser.bare_staffRequests]
  rw [hsteps]

namespace LoggedBrowser

/-- The bare browser, and what it did about staff without the answers. -/
def bare (s : LoggedBrowser) : LoggedBrowser :=
  ⟨s.browser.bare, s.log.map StaffStep.bare⟩

theorem map_bare_bare (log : List StaffStep) : (log.map StaffStep.bare).map StaffStep.bare = log.map StaffStep.bare := by
  rw [List.map_map]
  refine List.map_congr_left fun step _ => ?_
  cases step <;> rfl

theorem bare_moved {s : LoggedBrowser} {move move' : Browser × List Fetch}
    (h : Browser.bareMove move = Browser.bareMove move') : (s.moved move).bare = (s.bare.moved move').bare := by
  have hbrowser : move.1.bare = move'.1.bare := (Prod.ext_iff.1 h).1
  unfold bare moved
  simp only [List.map_append, map_bare_bare, hbrowser, staffSteps_bare h]

/-- Apart from replies about staff, all that happens does in the bare browser what it does. -/
theorem bare_after (s : LoggedBrowser) {o : Occurrence} (ho : o.isStaff = false) :
    (s.after o).bare = (s.bare.after o).bare := by
  cases o with
  | load => exact bare_moved rfl
  | press k =>
    have hquits : s.bare.browser.quits k = s.browser.quits k := s.browser.bare_quits k
    simp only [after, Browser.press, hquits]
    by_cases hq : s.browser.quits k = true
    · simp only [if_pos hq]
      exact congrArg (LoggedBrowser.mk s.browser.bare) (map_bare_bare s.log).symm
    · simp only [if_neg hq]
      exact bare_moved (s.browser.bareMove_handle k.key)
  | forest ticket result =>
    simp only [after, bare, map_bare_bare, ← Browser.bare_receive_tree]
  | staff place answer => cases ho

/-- A reply about staff does nothing to the bare browser. -/
theorem bare_after_staff (s : LoggedBrowser) (place : Nat) (answer : Except String (List Employee)) :
    (s.after (.staff place answer)).bare = s.bare := by
  rcases s.after_staff place answer with hsame | ⟨ticket, departmentId, hplace, hafter⟩
  · rw [hsame]
  · have hlog : (s.log.set place (.request ticket departmentId (some answer))).map StaffStep.bare =
        s.log.map StaffStep.bare := by
      obtain ⟨hlt, hstep⟩ := List.getElem?_eq_some_iff.1 hplace
      have hself : s.log.set place (.request ticket departmentId none) = s.log := by
        rw [← hstep, List.set_getElem_self]
      rw [← hself, List.set_set, List.map_set, List.map_set]
      rfl
    rw [hafter, bare, Browser.bare_receive_staff, hlog]
    rfl

/-- A run is, for the bare browser, the run without its replies about staff. -/
theorem bare_run (os : List Occurrence) : (run os).bare = (run (withoutStaff os)).bare := by
  induction os using List.reverseRecOn with
  | nil => rfl
  | append_singleton os o ih =>
    rw [run_concat, withoutStaff, List.filter_append]
    cases o with
    | staff place answer =>
      rw [bare_after_staff, ih, List.filter_cons_of_neg Bool.false_ne_true, List.filter_nil, List.append_nil]
      rfl
    | load | press | forest =>
      rw [List.filter_cons_of_pos rfl, List.filter_nil, run_concat, bare_after _ rfl, ih, ← bare_after _ rfl]
      rfl

end LoggedBrowser

end OrgConsole
