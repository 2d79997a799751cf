import Mathlib.Algebra.Group.Nat.Defs
import OrgConsole.Proofs.Browser.Moves
/-!
# Runs of the browser

A browser lives through keys and replies, in whatever order they come. Beside it stands a log that
the browser itself does not keep: what it did about the staff of departments, and what it was
answered.
-/

namespace OrgConsole

/-- What the browser did about staff. -/
inductive StaffStep
  /-- It asked for the staff of a department; with the answer, once there is one. -/
  | request (ticket : Ticket) (departmentId : String) (answer : Option (Except String (List Employee)))
  /-- It gave up on whatever it had asked for. -/
  | withdrawal

/-- Something that happens to a browser. -/
inductive Occurrence
  /-- The program asks for the organization, as it does when it starts. -/
  | load
  | press (k : KeyPress)
  /-- A reply brings an organization, or the reason why it cannot be had. -/
  | forest (ticket : Ticket) (result : Except String (List RawNode))
  /-- The request that stands at a place of the log is answered. -/
  | staff (place : Nat) (answer : Except String (List Employee))

def Fetch.staffStep? : Fetch → Option StaffStep
  | .tree _ => none
  | .staff ticket departmentId => some (.request ticket departmentId none)

/-- What a move did about staff. One that uses the numbers of requests up without making a request
has made the earlier ones void. -/
def staffSteps (before : Browser) (move : Browser × List Fetch) : List StaffStep :=
  match move.2.filterMap Fetch.staffStep? with
  | [] => if move.1.staffRequests = before.staffRequests then [] else [.withdrawal]
  | requests => requests

/-- What grows by at most one with each occurrence is no more than there are occurrences. -/
theorem size_foldl_le {α β : Type} (size : α → Nat) {f : α → β → α} (h : ∀ a b, size (f a b) ≤ size a + 1) (a : α)
    (bs : List β) : size (bs.foldl f a) ≤ size a + bs.length := by
  induction bs generalizing a with
  | nil => exact Nat.le_refl _
  | cons b rest ih =>
    have hstep := h a b
    have hrest := ih (f a b)
    rw [List.foldl_cons, List.length_cons]
    omega

/-- A browser and what it did about staff, the first step first. -/
structure LoggedBrowser where
  browser : Browser
  log : List StaffStep

namespace LoggedBrowser

def new : LoggedBrowser := ⟨.new, []⟩

def moved (s : LoggedBrowser) (move : Browser × List Fetch) : LoggedBrowser :=
  ⟨move.1, s.log ++ staffSteps s.browser move⟩

/-- What comes of it when something happens. A key that ends the browser changes nothing, and a
request is answered only once. -/
def after (s : LoggedBrowser) : Occurrence → LoggedBrowser
  | .load => s.moved s.browser.requestTree
  | .press k =>
    match s.browser.press k with
    | some move => s.moved move
    | none => s
  | .forest ticket result => { s with browser := s.browser.receive (.tree ticket (result.map buildForest)) }
  | .staff place answer =>
    match s.log[place]? with
    | some (.request ticket departmentId none) =>
      ⟨s.browser.receive (.staff ticket departmentId answer),
        s.log.set place (.request ticket departmentId (some answer))⟩
    | _ => s

/-- What a new browser lives through. -/
def run (os : List Occurrence) : LoggedBrowser :=
  os.foldl after new

theorem run_concat (os : List Occurrence) (o : Occurrence) : run (os ++ [o]) = (run os).after o := by
  simp [run]

/-- No request is answered as late as 2 ^ 64 steps about staff after it. Tickets are numbers of 64
bits, so by then the ticket of a request names a later one. -/
def InTime (os : List Occurrence) : Prop :=
  ∀ before place answer rest, os = before ++ .staff place answer :: rest →
    (run before).log.length ≤ place + 2 ^ 64

theorem InTime.init {os : List Occurrence} {o : Occurrence} (h : InTime (os ++ [o])) : InTime os := by
  intro before place answer rest he
  refine h before place answer (rest ++ [o]) ?_
  rw [he, List.append_assoc, List.cons_append]

theorem InTime.last {os : List Occurrence} {place : Nat} {answer : Except String (List Employee)}
    (h : InTime (os ++ [.staff place answer])) : (run os).log.length ≤ place + 2 ^ 64 :=
  h os place answer [] rfl

/-- A reply changes no more of the log than the answer that it gives. -/
theorem after_staff (s : LoggedBrowser) (place : Nat) (answer : Except String (List Employee)) :
    s.after (.staff place answer) = s ∨
      ∃ ticket departmentId, s.log[place]? = some (.request ticket departmentId none) ∧
        s.after (.staff place answer) = ⟨s.browser.receive (.staff ticket departmentId answer),
          s.log.set place (.request ticket departmentId (some answer))⟩ := by
  simp only [after]
  split
  · rename_i ticket departmentId h
    exact .inr ⟨ticket, departmentId, h, rfl⟩
  · exact .inl rfl

/-- A key leaves everything as it is, or moves the browser as keys do. -/
theorem after_press (s : LoggedBrowser) (k : KeyPress) :
    s.after (.press k) = s ∨ ∃ move, s.browser.Handled move ∧ s.after (.press k) = s.moved move := by
  rcases s.browser.press_cases k with hnone | hsome
  · simp only [after, hnone]
    exact .inl trivial
  · simp only [after, hsome]
    exact .inr ⟨_, s.browser.handled_handle k.key, rfl⟩

/-! ## What something brought about -/

/-- Something that `cause` tells happened, and ever since the browser has satisfied `P`. -/
def HoldsSince (cause : LoggedBrowser → Occurrence → Prop) (P : Browser → Prop) (os : List Occurrence) : Prop :=
  ∃ before o since, os = before ++ o :: since ∧ cause (run before) o ∧
    ∀ part, part <+: since → P (run (before ++ o :: part)).browser

variable {cause : LoggedBrowser → Occurrence → Prop} {P : Browser → Prop} {os : List Occurrence}

/-- What happened last may be the cause. -/
theorem HoldsSince.just {o : Occurrence} (ho : cause (run os) o) (hnow : P (run (os ++ [o])).browser) :
    HoldsSince cause P (os ++ [o]) := by
  refine ⟨os, o, [], rfl, ho, fun part hpart => ?_⟩
  rw [List.prefix_nil.1 hpart]
  exact hnow

theorem HoldsSince.concat (h : HoldsSince cause P os) {o : Occurrence} (hnow : P (run (os ++ [o])).browser) :
    HoldsSince cause P (os ++ [o]) := by
  obtain ⟨before, first, since, rfl, hcause, hsince⟩ := h
  refine ⟨before, first, since ++ [o], by rw [List.append_assoc, List.cons_append], hcause, fun part hpart => ?_⟩
  rcases List.prefix_concat_iff.1 hpart with rfl | hpart
  · rwa [List.append_assoc, List.cons_append] at hnow
  · exact hsince part hpart

theorem HoldsSince.now (h : HoldsSince cause P os) : P (run os).browser := by
  obtain ⟨before, first, since, rfl, -, hsince⟩ := h
  exact hsince since (List.prefix_refl since)

end LoggedBrowser

end OrgConsole
