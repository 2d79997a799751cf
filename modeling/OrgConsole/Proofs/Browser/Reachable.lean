import Mathlib.Data.List.Induction
import OrgConsole.Proofs.Browser.Run
/-!
# Browsers that can come about

A browser starts with nothing and takes keys and replies as they come. Replies may come in any order,
more than once, and with any ticket.
-/

namespace OrgConsole

/-- A browser that can come about if every organization that it shows satisfies `P`. -/
inductive Browser.Reachable (P : List OrgNode → Prop) : Browser → Prop
  | new : Reachable P .new
  | load {b : Browser} : Reachable P b → Reachable P b.requestTree.1
  | press {b : Browser} {move : Browser × List Fetch} (k : KeyPress) :
      Reachable P b → b.press k = some move → Reachable P move.1
  /-- A reply that is dropped may hold any organization. -/
  | receive {b : Browser} (r : Reply) : Reachable P b →
      (∀ ticket forest, r = .tree ticket (.ok forest) → b.isStale r = false → P forest) → Reachable P (b.receive r)

/-- Keys but for `q`, without the control key, never end the browser. -/
theorem Browser.Reachable.handleAll {P : List OrgNode → Prop} {b : Browser} {keys : List Key} (h : Reachable P b)
    (hkeys : .char 'q' ∉ keys) : Reachable P (keys.foldl (fun b key => (b.handle key).1) b) := by
  induction keys generalizing b with
  | nil => exact h
  | cons key rest ih =>
    rw [List.mem_cons, not_or] at hkeys
    have hstays : b.quits ⟨key, false⟩ = false := by simp [quits, Ne.symm hkeys.1]
    exact ih (.press ⟨key, false⟩ h (if_neg (Bool.eq_false_iff.1 hstays))) hkeys.2

/-- What a browser with a log lives through can come about. -/
theorem LoggedBrowser.reachable_run {P : List OrgNode → Prop} {os : List Occurrence}
    (h : ∀ ticket sent, .forest ticket (.ok sent) ∈ os → P (buildForest sent)) :
    Browser.Reachable P (run os).browser := by
  induction os using List.reverseRecOn with
  | nil => exact .new
  | append_singleton os o ih =>
    replace ih := ih fun ticket sent hmem => h ticket sent (List.mem_append_left _ hmem)
    rw [run_concat]
    cases o with
    | load => exact .load ih
    | press k =>
      simp only [after]
      split
      · rename_i move hmove
        exact .press k ih hmove
      · exact ih
    | forest ticket result =>
      refine .receive _ ih ?_
      intro ticket' forest hreply _
      cases result with
      | error why => cases hreply
      | ok sent =>
        cases hreply
        exact h ticket sent (List.mem_append_right _ (List.mem_singleton_self _))
    | staff place answer =>
      rcases (run os).after_staff place answer with hsame | ⟨ticket, departmentId, -, hafter⟩
      · rw [hsame]
        exact ih
      · rw [hafter]
        refine .receive _ ih ?_
        intro ticket' forest hreply _
        cases hreply

end OrgConsole
