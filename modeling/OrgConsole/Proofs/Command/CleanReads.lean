import OrgConsole.Command.Run
import OrgConsole.Http.Routes
import OrgConsole.Proofs.Http.Exchanges
import OrgConsole.Proofs.Permission.Seed
/-!
# No write without a clean read

A command that edits reads first, and it writes only after every answer that it needs was one of the two
hundreds, could be read, and named what the command is about. Whatever the backend answers, it writes at
most once, and a write that the backend does not accept is the last request.
-/

namespace OrgConsole

variable {σ α β : Type}

/-! ## The course of an edit -/

/-- The exchanges of an edit that needs answers before it writes, and its value if it does not fail. -/
inductive Course : List (Exchange → Prop) → Option α → List Exchange → Prop
  /-- No request can be made for the next answer. -/
  | unsent {need : Exchange → Prop} {needs : List (Exchange → Prop)} : Course (need :: needs) none []
  /-- The answer is not the one that is needed. -/
  | unmet {need : Exchange → Prop} {needs : List (Exchange → Prop)} {x : Exchange} (reads : ¬ x.Writes)
      (fails : ¬ need x) : Course (need :: needs) none [x]
  /-- The answer is the one that is needed, and the edit goes on. -/
  | met {need : Exchange → Prop} {needs : List (Exchange → Prop)} {x : Exchange} {r : Option α}
      {log : List Exchange} (reads : ¬ x.Writes) (meets : need x) (rest : Course needs r log) :
      Course (need :: needs) r (x :: log)
  /-- Nothing is written. -/
  | unwritten {r : Option α} : Course [] r []
  /-- What is written is not accepted. -/
  | refused {x : Exchange} (writes : x.Writes) (refuses : x.accepted? = none) : Course [] none [x]
  /-- What is written is accepted, and nothing but reads follow. -/
  | written {x : Exchange} {r : Option α} {log : List Exchange} (writes : x.Writes) (accepts : x.accepted? ≠ none)
      (reads : ∀ y ∈ log, ¬ y.Writes) : Course [] r (x :: log)

/-- Exchanges that bring what is needed, each its own. -/
abbrev Meets (needs : List (Exchange → Prop)) (log : List Exchange) : Prop :=
  List.Forall₂ (fun need x => need x) needs log

section Course

variable {needs : List (Exchange → Prop)} {r : Option α} {log : List Exchange}

theorem Course.map (h : Course needs r log) (f : α → β) : Course needs (r.map f) log := by
  induction h with
  | unsent => exact .unsent
  | unmet reads fails => exact .unmet reads fails
  | met reads meets _ ih => exact .met reads meets ih
  | unwritten => exact .unwritten
  | refused writes refuses => exact .refused writes refuses
  | written writes accepts reads => exact .written writes accepts reads

theorem Course.countP_writes_le (h : Course needs r log) : log.countP (·.Writes) ≤ 1 := by
  induction h with
  | unsent | unwritten => exact Nat.zero_le 1
  | unmet reads _ => simp [reads]
  | met reads _ _ ih => simpa [List.countP_cons, reads] using ih
  | refused writes _ => simp [writes]
  | written writes _ reads => simpa [List.countP_cons, writes, List.countP_eq_zero] using reads

/-- A write after a read stands among what follows the read. -/
theorem split_after_read {x y : Exchange} {log before after : List Exchange} (hy : ¬ y.Writes) (hx : x.Writes)
    (h : y :: log = before ++ x :: after) : ∃ rest, before = y :: rest ∧ log = rest ++ x :: after := by
  obtain ⟨-, heq⟩ | hrest := List.cons_eq_append_iff.mp h
  · rw [(List.cons.inj heq).1] at hx
    exact absurd hx hy
  · exact hrest

/-- A write before nothing but reads is the first exchange. -/
theorem split_before_reads {x y : Exchange} {log before after : List Exchange} (hlog : ∀ z ∈ log, ¬ z.Writes)
    (hx : x.Writes) (h : y :: log = before ++ x :: after) : before = [] ∧ x = y ∧ after = log := by
  obtain ⟨hbefore, heq⟩ | ⟨rest, -, hrest⟩ := List.cons_eq_append_iff.mp h
  · obtain ⟨hxy, hafter⟩ := List.cons.inj heq
    exact ⟨hbefore, hxy, hafter⟩
  · have hmem : x ∈ log := hrest ▸ List.mem_append_right rest List.mem_cons_self
    exact absurd hx (hlog x hmem)

/-- What comes before a write is what is needed, and a write that is not accepted is the end. -/
theorem Course.at_write (h : Course needs r log) {before after : List Exchange} {x : Exchange}
    (hlog : log = before ++ x :: after) (hx : x.Writes) :
    Meets needs before ∧ (x.accepted? = none → r = none ∧ after = []) := by
  -- Along the answers that are needed: as long as one is due nothing is written, so each stands before the write.
  induction h generalizing before with
  | unsent | unwritten => simp at hlog
  | unmet reads _ =>
    obtain ⟨rest, -, hrest⟩ := split_after_read reads hx hlog
    simp at hrest
  | met reads meets _ ih =>
    obtain ⟨rest, rfl, hrest⟩ := split_after_read reads hx hlog
    obtain ⟨hmeets, hend⟩ := ih hrest
    exact ⟨.cons meets hmeets, hend⟩
  | refused writes _ =>
    obtain ⟨rfl, -, hafter⟩ := split_before_reads (by simp) hx hlog
    exact ⟨.nil, fun _ => ⟨rfl, hafter⟩⟩
  | written writes accepts reads =>
    obtain ⟨rfl, rfl, -⟩ := split_before_reads reads hx hlog
    exact ⟨.nil, fun hnone => absurd hnone accepts⟩

/-- Where no answers are what is needed the edit fails without a write. -/
theorem Course.of_unmet (h : Course needs r log) (hunmet : ∀ clean, clean <+: log → ¬ Meets needs clean) :
    r = none ∧ ∀ x ∈ log, ¬ x.Writes := by
  induction h with
  | unsent => exact ⟨rfl, List.forall_mem_nil _⟩
  | unmet reads _ => exact ⟨rfl, by simpa using reads⟩
  | @met need needs x r log reads meets _ ih =>
    obtain ⟨hr, hlog⟩ := ih fun clean hclean hmeets =>
      hunmet (x :: clean) (List.cons_prefix_cons.mpr ⟨rfl, hclean⟩) (.cons meets hmeets)
    exact ⟨hr, List.forall_mem_cons.mpr ⟨reads, hlog⟩⟩
  | unwritten | refused | written => exact absurd .nil (hunmet [] (List.nil_prefix))

end Course

/-! ## What an edit needs -/

namespace Client

variable (c : Client)

/-- The organization, in which the name is that of a department. -/
def Resolves (department : String) (x : Exchange) : Prop :=
  x.request = c.request .orgTree ∧ ∃ raw n, x.brings? Wire.nodes = some raw ∧
    (findNode? (buildForest raw) department).or (findDepartment? (buildForest raw) department) = some n ∧
    n.label.kind = .dept

/-- The memberships of an employee. -/
def Lists (employee : String) (x : Exchange) : Prop :=
  x.request = c.request (.employeeDepartments employee) ∧ ∃ ms, x.brings? Wire.memberships = some ms

/-- The template of a role, in which no two actions share an id and every id is that of an action. -/
def Knows (role : String) (ids : List String) (x : Exchange) : Prop :=
  x.request = c.request (.rolePermissions role) ∧ ∃ groups, x.brings? Wire.groups = some groups ∧
    (permissionIds groups).Nodup ∧ ∀ id ∈ ids, id ∈ permissionIds groups

/-- What a command has to be answered before it writes, in order, if it is one that edits. -/
def needs? : Command → Option (List (Exchange → Prop))
  | .memberships (.add employee department _ _) => some [c.Resolves department, c.Lists employee]
  | .memberships (.remove employee _) | .memberships (.primary employee _) | .memberships (.title employee _ _) =>
    some [c.Lists employee]
  | .permissions (.grant role ids) | .permissions (.revoke role ids) => some [c.Knows role ids]
  | _ => none

end Client

/-! ## Steps of an edit -/

section Steps

variable {ε : Type} {x : Action (Recorded σ) ε α} {f : α → Action (Recorded σ) ε β} {q : HttpRequest}
  {g : Exchange → Option α} {need : Exchange → Prop} {needs : List (Exchange → Prop)}

theorem not_writes {y : Exchange} (hget : q.method = .get) (hy : y.request = q) : ¬ y.Writes := by
  rw [Exchange.Writes, hy, hget]
  nofun

theorem Asks.reads (hget : q.method = .get) {r : Option α} {log : List Exchange} (h : Asks q g r log) :
    ∀ y ∈ log, ¬ y.Writes := by
  cases h with
  | unsent => exact List.forall_mem_nil _
  | sent request _ => simpa using not_writes hget request

/-- What needs the answer to a request goes on after the answer that it needs. -/
theorem Tells.needed (hget : q.method = .get) (hx : Tells x (Asks q g))
    (hunmet : ∀ y, y.request = q → g y = none → ¬ need y)
    (hsome : ∀ y a, y.request = q → g y = some a → Tells (f a) fun r log => Course (need :: needs) r (y :: log)) :
    Tells (x >>= f) (Course (need :: needs)) :=
  hx.ask_bind .unsent (fun y hy hnone => .unmet (not_writes hget hy) (hunmet y hy hnone)) hsome

/-- Reads may follow a write, if it is accepted. -/
theorem Tells.write {f : Unit → Action (Recorded σ) ε β} {x : Action (Recorded σ) ε Unit} (hput : q.method = .put)
    (hx : Tells x (Asks q fun y => y.accepted?.bind fun _ => some ()))
    (hf : Tells (f ()) fun _ log => ∀ y ∈ log, ¬ y.Writes) : Tells (x >>= f) (Course []) := by
  have hwrites : ∀ y : Exchange, y.request = q → y.Writes := fun y hy => by rw [Exchange.Writes, hy, hput]
  refine hx.ask_bind .unwritten ?_ ?_
  · intro y hy hnone
    refine .refused (hwrites y hy) ?_
    cases haccepted : y.accepted? with
    | none => rfl
    | some body => simp [haccepted] at hnone
  · intro y _ hy hsome
    refine hf.mono fun r log hreads => .written (hwrites y hy) ?_ hreads
    intro hrefused
    simp [hrefused] at hsome

/-- What makes no exchange and does not fail may follow an edit. -/
theorem Tells.edit_then (hx : Tells x (Course needs)) (hf : ∀ a, ∃ b, f a = pure b) :
    Tells (x >>= f) (Course needs) := by
  refine hx.bind (fun log h => h.map fun a => (hf a).choose) fun a log h => ?_
  obtain ⟨b, hb⟩ := hf a
  rw [hb]
  exact tells_pure b (by rw [List.append_nil]; exact h.map fun _ => b)

end Steps

/-! ## Workflows -/

namespace Client

variable (send : Transport σ) (c : Client)

theorem tells_loadForest :
    Tells (c.directory send.recorded).loadForest
      (Asks (c.request .orgTree) fun y => (y.brings? Wire.nodes).bind fun raw => some (buildForest raw)) :=
  (tells_fetch send c Wire.nodes _).lift.ask_then fun _ => Tells.note _ (tells_pure _ ⟨rfl, rfl⟩)

theorem tells_loadMemberships (employee : String) :
    Tells ((c.directory send.recorded).loadMemberships employee)
      (Asks (c.request (.employeeDepartments employee)) fun y =>
        (y.brings? Wire.memberships).bind fun ms => some (reconcile ms)) :=
  (tells_fetch send c Wire.memberships _).lift.ask_then fun _ => tells_pure _ ⟨rfl, rfl⟩

theorem tells_saveMemberships (employee : String) (ms : List Membership) :
    Tells ((c.directory send.recorded).saveMemberships employee ms) (Course []) :=
  Tells.write rfl (tells_replace send c _ _).lift <|
    Tells.note _ ((tells_loadMemberships send c employee).mono fun _ _ => Asks.reads rfl)

theorem tells_editMemberships (employee : String) (edits : List MembershipEdit) :
    Tells ((c.directory send.recorded).editMemberships employee edits) (Course [c.Lists employee]) := by
  refine Tells.needed rfl (tells_loadMemberships send c employee) ?_ ?_
  · rintro y - hnone ⟨-, ms, hms⟩
    rw [hms] at hnone
    cases hnone
  · intro y current hy hsome
    obtain ⟨ms, hms, -⟩ := Option.bind_eq_some_iff.mp hsome
    have hneed : c.Lists employee y := ⟨hy, ms, hms⟩
    refine Tells.mono (P := Course []) ?_ fun r log => .met (not_writes rfl hy) hneed
    refine Tells.ite (Tells.note _ (tells_pure _ .unwritten)) ?_
    exact tells_saveMemberships send c employee _

theorem tells_loadMatrix (role : String) :
    Tells ((c.directory send.recorded).loadMatrix role)
      (Asks (c.request (.rolePermissions role)) fun y => (y.brings? Wire.groups).bind fun groups =>
        (PermissionMatrix.ofGroups groups : Except (Failure ClientFailure) PermissionMatrix).toOption) :=
  (tells_fetch send c Wire.groups _).lift.ask_then fun _ => tells_ofExcept _ ⟨rfl, rfl⟩

theorem tells_saveMatrix (role : String) (m : PermissionMatrix) (s : Selection) :
    Tells ((c.directory send.recorded).saveMatrix role m s) (Course []) := by
  have hread := (tells_loadMatrix send c role).ask_then fun loaded => tells_pure (m.change s, loaded) ⟨rfl, rfl⟩
  unfold Directory.saveMatrix
  refine Tells.ite (Tells.note _ (tells_pure _ .unwritten)) ?_
  exact Tells.write rfl (tells_replace send c _ _).lift (Tells.note _ (hread.mono fun _ _ => Asks.reads rfl))

/-! ## Commands -/

/-- A membership can be had in what is found, if that is a department. -/
theorem exists_inForest_iff {ε : Type} {forest : List OrgNode} {department : String} {title : Option String} :
    (∃ m, (Membership.inForest forest department title : Except (Failure ε) Membership) = .ok m) ↔
      ∃ n, (findNode? forest department).or (findDepartment? forest department) = some n ∧ n.label.kind = .dept := by
  rw [Membership.inForest]
  cases (findNode? forest department).or (findDepartment? forest department) with
  | none => simp
  | some n => cases hkind : n.label.kind <;> simp [Membership.inNode, NodeInfo.isCorp, hkind]

theorem toOption_ofGroups_eq_some_iff {ε : Type} {groups : List PermissionGroup} {m : PermissionMatrix} :
    (PermissionMatrix.ofGroups groups : Except (Failure ε) PermissionMatrix).toOption = some m ↔
      (permissionIds groups).Nodup ∧ m = ⟨groups, seedSelection groups⟩ := by
  rw [← ofGroups_eq_ok_iff (ε := ε)]
  cases (PermissionMatrix.ofGroups groups : Except (Failure ε) PermissionMatrix) <;> simp [Except.toOption]

theorem tells_runEdit (employee : String) (edit : MembershipEdit) :
    Tells (Command.runEdit (c.directory send.recorded) employee edit) (Course [c.Lists employee]) :=
  ((tells_editMemberships send c employee [edit]).mapFailure _).edit_then fun _ => ⟨_, rfl⟩

theorem tells_runAdd (employee department : String) (title : Option String) (primary : Bool) :
    Tells (Command.runMemberships (c.directory send.recorded) (.add employee department title primary))
      (Course [c.Resolves department, c.Lists employee]) := by
  refine Tells.needed rfl ((tells_loadForest send c).mapFailure _) ?_ ?_
  · rintro y - hnone ⟨-, raw, n, hraw, -⟩
    rw [hraw] at hnone
    cases hnone
  · intro y forest hy hsome
    obtain ⟨raw, hraw, hforest⟩ := Option.bind_eq_some_iff.mp hsome
    obtain rfl := Option.some.inj hforest
    refine Tells.check ?_ ?_
    · intro e he
      refine .unmet (not_writes rfl hy) ?_
      rintro ⟨-, raw', n, hraw', hn⟩
      obtain rfl := Option.some.inj (hraw.symm.trans hraw')
      obtain ⟨m, hm⟩ := exists_inForest_iff.mpr ⟨n, hn⟩
      rw [hm] at he
      cases he
    · intro m hm
      obtain ⟨n, hn⟩ := exists_inForest_iff.mp ⟨m, hm⟩
      have hneed : c.Resolves department y := ⟨hy, raw, n, hraw, hn⟩
      exact (tells_runEdit send c employee _).mono fun r log => .met (not_writes rfl hy) hneed

theorem tells_runSet (role : String) (ids : List String) (checked : Bool) :
    Tells (Command.runSet (c.directory send.recorded) role ids checked) (Course [c.Knows role ids]) := by
  refine Tells.needed rfl ((tells_loadMatrix send c role).mapFailure _) ?_ ?_
  · rintro y - hnone ⟨-, groups, hgroups, hunique, -⟩
    rw [hgroups, Option.bind_some, toOption_ofGroups_eq_some_iff.mpr ⟨hunique, rfl⟩] at hnone
    cases hnone
  · intro y m hy hsome
    obtain ⟨groups, hgroups, hm⟩ := Option.bind_eq_some_iff.mp hsome
    obtain ⟨hunique, rfl⟩ := toOption_ofGroups_eq_some_iff.mp hm
    refine Tells.check ?_ ?_
    · intro e he
      refine .unmet (not_writes rfl hy) ?_
      rintro ⟨-, groups', hgroups', -, hknown⟩
      obtain rfl := Option.some.inj (hgroups.symm.trans hgroups')
      rw [checkKnown_eq_ok_iff.mpr hknown] at he
      cases he
    · intro _ hknown
      have hneed : c.Knows role ids y := ⟨hy, groups, hgroups, hunique, checkKnown_eq_ok_iff.mp hknown⟩
      refine Tells.mono (P := Course []) ?_ fun r log => .met (not_writes rfl hy) hneed
      exact ((tells_saveMatrix send c role _ _).mapFailure _).edit_then fun change => ⟨_, rfl⟩

theorem tells_run {command : Command} {needs : List (Exchange → Prop)} (h : c.needs? command = some needs) :
    Tells (Command.run (c.directory send.recorded) command) (Course needs) := by
  cases command with
  | browse | tree => cases h
  | memberships command =>
    cases command with
    | list => cases h
    | add employee department title primary =>
      obtain rfl := Option.some.inj h
      exact tells_runAdd send c employee department title primary
    | remove employee | primary employee | title employee =>
      obtain rfl := Option.some.inj h
      exact tells_runEdit send c employee _
  | permissions command =>
    cases command with
    | list => cases h
    | grant role ids | revoke role ids =>
      obtain rfl := Option.some.inj h
      exact tells_runSet send c role ids _

/-- What a command prints, unless it fails, and the exchanges that it makes. -/
def converse (command : Command) (s : Session σ) : Option String × List Exchange :=
  let result := Command.run (c.directory send.recorded) command ⟨⟨s.backend, []⟩, s.events⟩
  (valueOf result, exchangesAfter result)

/-- Whatever a backend answers, a command that edits writes at most once; it writes only after it was answered
all that it needs, in order; a write that is not accepted is the end, and the command fails; and where it is
not answered all that it needs, it fails and writes nothing. -/
theorem no_write_without_clean_reads {command : Command} {needs : List (Exchange → Prop)}
    (h : c.needs? command = some needs) (s : Session σ) :
    let (printed, exchanges) := c.converse send command s
    exchanges.countP (·.Writes) ≤ 1 ∧
    (∀ before x after, exchanges = before ++ x :: after → x.Writes →
      Meets needs before ∧ (x.accepted? = none → printed = none ∧ after = [])) ∧
    ((∀ clean, clean <+: exchanges → ¬ Meets needs clean) → printed = none ∧ ∀ x ∈ exchanges, ¬ x.Writes) := by
  obtain ⟨log, hlog, hcourse⟩ := tells_run send c h ⟨⟨s.backend, []⟩, s.events⟩
  have hexchanges : (c.converse send command s).2 = log := hlog.trans (List.nil_append log)
  have hconverse : Course needs (c.converse send command s).1 (c.converse send command s).2 := hexchanges ▸ hcourse
  exact ⟨hconverse.countP_writes_le, fun before x after heq hx => hconverse.at_write heq hx, hconverse.of_unmet⟩

/-- A backend with one membership to read, which accepts no other. -/
def stubborn : RouteBackend where
  routes := [⟨.get, "/api/employees/e/departments", 200, "[\x7b\"department_id\":\"d\"\x7d]"⟩,
    ⟨.put, "/api/employees/e/departments", 500, ""⟩]
  keeps := false
  requests := []

/-- A removal that the backend does not accept fails, after it was told the memberships. -/
theorem refused_removal_fails :
    let c : Client := ⟨⟨"http", none, some (.domain "host"), none, [""], none, none⟩, "", ""⟩
    let (printed, exchanges) := c.converse RouteBackend.send (.memberships (.remove "e" "d")) ⟨stubborn, []⟩
    ∃ x y, exchanges = [x, y] ∧ c.Lists "e" x ∧ y.Writes ∧ y.accepted? = none ∧ printed = none := by
  intro c
  have hneeds : c.needs? (.memberships (.remove "e" "d")) = some [c.Lists "e"] := rfl
  have hclean := no_write_without_clean_reads RouteBackend.send c hneeds ⟨stubborn, []⟩
  have hmade : (c.converse RouteBackend.send (.memberships (.remove "e" "d")) ⟨stubborn, []⟩).2.map
      (fun x => (x.request.method, x.accepted?.isSome)) = [(.get, true), (.put, false)] := by
    decide +kernel
  generalize c.converse RouteBackend.send (.memberships (.remove "e" "d")) ⟨stubborn, []⟩ = result at hclean hmade
  obtain ⟨printed, exchanges⟩ := result
  obtain ⟨x, _, rfl, -, hrest⟩ := List.map_eq_cons_iff.mp hmade
  obtain ⟨y, rfl, hy⟩ := List.map_eq_singleton_iff.mp hrest
  obtain ⟨hmethod, hsome⟩ := Prod.mk.inj hy
  have hrefused : y.accepted? = none := Option.not_isSome_iff_eq_none.mp (by simp [hsome])
  obtain ⟨hmeets, hend⟩ := hclean.2.1 [x] y [] rfl hmethod
  exact ⟨x, y, rfl, (List.forall₂_cons.mp hmeets).1, hmethod, hrefused, (hend hrefused).1⟩

end Client

end OrgConsole
