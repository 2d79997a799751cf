import OrgConsole.Proofs.Json.ReadBack
import OrgConsole.Wire.Nodes
/-!
# Records read back

Every record that is written reads back as it was: lists of memberships, of employees and of permission
groups, and every forest of nodes that nests no deeper than the reader goes.
-/

namespace OrgConsole.Wire

/-! ## Values -/

/-- Values are written plainly, and read back wherever `levels` levels of nesting are left. -/
structure Faithful {α : Type} (levels : Nat) (json : α → Json) (read : Nat → Json → Reading α) : Prop where
  plain : ∀ a, (json a).Plain
  reads : ∀ a room, levels ≤ room → read room (json a) = .ok a

section Values

variable {α : Type} {json : α → Json} {read : Nat → Json → Reading α} {levels : Nat}

theorem faithful_string : Faithful 0 Json.string (flat string) where
  plain _ := trivial
  reads _ _ _ := rfl

theorem faithful_bool : Faithful 0 Json.bool (flat bool) where
  plain _ := trivial
  reads _ _ _ := rfl

theorem faithful_identifier : Faithful 0 Json.string identifier where
  plain _ := trivial
  reads _ _ _ := rfl

theorem plain_nullable (s : Option String) : (nullable s).Plain := by
  cases s with
  | none => trivial
  | some s => trivial

theorem faithful_optionalId : Faithful 0 nullable optionalId where
  plain := plain_nullable
  reads s _ _ := by
    cases s with
    | none => rfl
    | some s => rfl

theorem faithful_optionalString : Faithful 0 nullable optionalString where
  plain := plain_nullable
  reads s _ _ := by
    cases s with
    | none => rfl
    | some s => rfl

theorem faithful_idOrEmpty : Faithful 0 Json.string idOrEmpty where
  plain _ := trivial
  reads _ _ _ := rfl

theorem faithful_nodeKind : Faithful 0 (fun k => .string (kindName k)) nodeKind where
  plain _ := trivial
  reads k _ _ := by
    cases k with
    | corp => rfl
    | dept => rfl

theorem integer_eq_ok_iff {name : String} {low high n : Int} {v : Json} :
    integer name low high v = .ok n ↔ v = .number (.integer n) ∧ low ≤ n ∧ n ≤ high := by
  constructor
  · intro h
    unfold integer at h
    split at h
    · split at h
      · rename_i hrange
        obtain rfl := Except.ok.inj h
        exact ⟨rfl, by simpa using hrange⟩
      · cases h
    · cases h
  · rintro ⟨rfl, hlow, hhigh⟩
    simp [integer, hlow, hhigh]

theorem faithful_octet : Faithful 0 (fun n : UInt8 => .number (.integer n.toNat)) (flat octet) where
  plain n := by
    have hn := n.toNat_lt
    simp only [Json.Plain, Number.least, Number.greatest]
    omega
  reads n _ _ := by
    have hn := n.toNat_lt
    rw [flat, octet, integer_eq_ok_iff.mpr ⟨rfl, by omega, by omega⟩]
    exact congrArg Except.ok UInt8.ofNat_toNat

theorem faithful_word : Faithful 0 (fun n : Int32 => .number (.integer n.toInt)) (flat word) where
  plain n := by
    have hlow := n.le_toInt
    have hhigh := n.toInt_lt
    simp only [Json.Plain, Number.least, Number.greatest]
    omega
  reads n _ _ := by
    have hlow := n.le_toInt
    have hhigh := n.toInt_lt
    rw [flat, word, integer_eq_ok_iff.mpr ⟨rfl, by omega, by omega⟩]
    exact congrArg Except.ok (Int32.ofInt_toInt n)

theorem items_map {read : Json → Reading α} (h : ∀ a, read (json a) = .ok a) (as : List α) :
    items read (as.map json) = .ok as := by
  induction as with
  | nil => rfl
  | cons a as ih =>
    rw [List.map_cons, items, h a, ih]
    rfl

/-- An array of values is one level deeper than they are. -/
theorem Faithful.list (h : Faithful levels json read) :
    Faithful (levels + 1) (fun as => .array (as.map json)) (Wire.list read) where
  plain as := Json.plainItems_iff.mpr (List.forall_mem_map.mpr fun a _ => h.plain a)
  reads as room hroom := by
    obtain ⟨room, rfl⟩ : ∃ inner, room = inner + 1 := Nat.exists_eq_add_one.mpr (by omega)
    exact items_map (fun a => h.reads a room (by omega)) as

/-- A plain value is read from its text as it is. -/
theorem readText_compress {v : Json} (h : v.Plain) (read : Nat → Json → Reading α) :
    readText read v.compress = read nestingLimit v := by
  simp only [readText, Json.read_compress h, if_true, bind_pure]

theorem Faithful.readText_eq (h : Faithful levels json read) (hlevels : levels ≤ nestingLimit) (a : α) :
    readText read (json a).compress = .ok a :=
  (readText_compress (h.plain a) read).trans (h.reads a nestingLimit hlevels)

end Values

/-! ## Members of a record -/

namespace Layout

variable {ρ : Type} {l : Layout ρ} {room : Nat}

/-- Plain members, read where `room` levels are left, turn one record into another. -/
inductive Turns (l : Layout ρ) (room : Nat) : List (String × Json) → ρ → ρ → Prop
  | nil {r : ρ} : Turns l room [] r r
  | cons {key : String} {v : Json} {f : Field ρ} {r r' r'' : ρ} {rest : List (String × Json)}
      (field : l.fields.find? (·.name = key) = some f) (plain : v.Plain) (put : f.put room v r = .ok r')
      (more : Turns l room rest r' r'') : Turns l room ((key, v) :: rest) r r''

theorem Turns.append {ms ns : List (String × Json)} {r r' r'' : ρ} (hms : l.Turns room ms r r')
    (hns : l.Turns room ns r' r'') : l.Turns room (ms ++ ns) r r'' := by
  induction hms with
  | nil => exact hns
  | cons field plain put _ ih => exact .cons field plain put (ih hns)

theorem Turns.plain {ms : List (String × Json)} {r r' : ρ} (h : l.Turns room ms r r') : Json.PlainMembers ms := by
  induction h with
  | nil => trivial
  | cons _ plain _ _ ih => exact ⟨plain, ih⟩

theorem readMembers_cons {key : String} {v : Json} {f : Field ρ} (seen : List String) (r : ρ)
    (rest : List (String × Json)) (hfield : l.fields.find? (·.name = key) = some f) (hplain : v.Plain)
    (hnew : key ∉ seen) :
    l.readMembers room seen r ((key, v) :: rest) =
      (f.put room v r >>= fun r => l.readMembers room (key :: seen) r rest) := by
  cases v with
  | fault kind found => exact hplain.elim
  | _ => simp only [readMembers, hfield, if_neg hnew]

/-- Members with different keys are all taken in, and their fields are all given. -/
theorem Turns.readMembers_eq {ms : List (String × Json)} {r r' : ρ} (h : l.Turns room ms r r') (seen : List String)
    (hdistinct : (ms.map (·.1) ++ seen).Nodup) :
    ∃ seen', l.readMembers room seen r ms = .ok (r', seen') ∧ ms.map (·.1) ⊆ seen' ∧ seen ⊆ seen' := by
  -- Only which keys were given matters in the end, not in which order, so inclusion is what is carried along.
  induction h generalizing seen with
  | nil => exact ⟨seen, rfl, List.nil_subset _, List.Subset.refl _⟩
  | @cons key v f r r' r'' rest field plain put _ ih =>
    have hfresh := (List.nodup_cons.mp hdistinct).1
    have hnew : key ∉ seen := fun hmem => hfresh (List.mem_append_right _ hmem)
    have hdistinct' : (rest.map (·.1) ++ key :: seen).Nodup := List.perm_middle.nodup_iff.mpr hdistinct
    obtain ⟨seen', hread, hkeys, hseen⟩ := ih (key :: seen) hdistinct'
    obtain ⟨hkey, hold⟩ := List.cons_subset.mp hseen
    refine ⟨seen', ?_, List.cons_subset.mpr ⟨hkey, hkeys⟩, hold⟩
    rw [readMembers_cons seen r rest field plain hnew, put]
    exact hread

/-- An object whose members tell a record in full, read where `room` levels are left. -/
inductive Tells (l : Layout ρ) (room : Nat) : Json → ρ → Prop
  | object {members : List (String × Json)} {r : ρ} (turns : l.Turns room members l.blank r)
      (distinct : (members.map (·.1)).Nodup)
      (required : ∀ f ∈ l.fields, f.required = true → f.name ∈ members.map (·.1)) : Tells l room (.object members) r

theorem Tells.plain {v : Json} {r : ρ} (h : l.Tells room v r) : v.Plain := by
  cases h with
  | object turns _ _ => exact turns.plain

theorem complete_of_required {seen : List String} (h : ∀ f ∈ l.fields, f.required = true → f.name ∈ seen) :
    l.complete seen = .ok () := by
  have hnone : l.fields.find? (fun f => f.required && !seen.contains f.name) = none := by
    refine List.find?_eq_none.mpr fun f hf => ?_
    cases hrequired : f.required with
    | false => simp
    | true => simpa using h f hf hrequired
  rw [complete, hnone]

theorem Tells.read_eq {v : Json} {r : ρ} (h : l.Tells room v r) : l.read (room + 1) v = .ok r := by
  cases h with
  | @object members _ turns distinct required =>
    obtain ⟨seen, hread, hkeys, -⟩ := turns.readMembers_eq [] (by simpa using distinct)
    have hcomplete := complete_of_required fun f hf hrequired => hkeys (required f hf hrequired)
    show (do let x ← l.readMembers room [] l.blank members; l.complete x.2; return x.1 : Reading ρ) = .ok r
    rw [hread]
    show (do l.complete seen; return r : Reading ρ) = .ok r
    rw [hcomplete]
    rfl

/-- Records that their objects tell in full read back from them. -/
theorem faithful {json : ρ → Json} {levels : Nat} (l : Layout ρ)
    (h : ∀ r room, levels ≤ room → l.Tells room (json r) r) : Faithful (levels + 1) json l.read where
  plain r := (h r levels (Nat.le_refl _)).plain
  reads r room hroom := by
    obtain ⟨room, rfl⟩ : ∃ inner, room = inner + 1 := Nat.exists_eq_add_one.mpr (by omega)
    exact (h r room (by omega)).read_eq

end Layout

/-- A member written so that its field reads it back. -/
theorem Faithful.turns {ρ α : Type} {l : Layout ρ} {levels room : Nat} {json : α → Json}
    {read : Nat → Json → Reading α} {key : String} {required : Bool} {set : α → ρ → ρ}
    {rest : List (String × Json)} {r r' : ρ} (h : Faithful levels json read) (a : α)
    (hfield : l.fields.find? (·.name = key) = some (.of key required read set)) (hroom : levels ≤ room)
    (hrest : l.Turns room rest (set a r) r') : l.Turns room ((key, json a) :: rest) r r' := by
  refine .cons hfield (h.plain a) ?_ hrest
  simp only [Field.of, h.reads a room hroom]
  rfl

/-- A member that is left out leaves the record as it is. -/
theorem turns_present {ρ : Type} {l : Layout ρ} {room : Nat} {key : String} {required : Bool}
    {set : Option String → ρ → ρ} {r r' : ρ} (s : Option String)
    (hfield : l.fields.find? (·.name = key) = some (.of key required optionalString set))
    (hnone : set none r = r) (hset : set s r = r') : l.Turns room (present key s) r r' := by
  cases s with
  | none =>
    rw [← hset, hnone]
    exact .nil
  | some s =>
    rw [← hset]
    exact faithful_optionalString.turns (some s) hfield (Nat.zero_le room) .nil

/-! ## Employees -/

theorem tells_membership (m : Membership) (room : Nat) (hroom : 0 ≤ room) :
    membershipLayout.Tells room (membershipJson m) m := by
  simp only [membershipJson, List.append_assoc, List.cons_append, List.nil_append]
  refine .object ?turns ?distinct (by simp [membershipLayout, Field.of])
  case turns =>
    exact
      faithful_identifier.turns m.departmentId rfl hroom <|
      faithful_string.turns m.departmentName rfl hroom <|
      faithful_idOrEmpty.turns m.corpId rfl hroom <|
      faithful_string.turns m.corpName rfl hroom <|
      .append (turns_present m.jobTitle rfl rfl rfl) <|
      faithful_bool.turns m.isPrimary rfl hroom <|
      turns_present m.departmentPath rfl rfl rfl
  case distinct => cases m.jobTitle <;> cases m.departmentPath <;> simp [present]

theorem faithful_membership : Faithful 1 membershipJson membership :=
  membershipLayout.faithful tells_membership

theorem tells_employee (e : Employee) (room : Nat) (hroom : 0 ≤ room) :
    employeeLayout.Tells room (employeeJson e) e := by
  refine .object ?turns (by simp) (by simp [employeeLayout, Field.of])
  exact
    faithful_identifier.turns e.id rfl hroom <|
    faithful_string.turns e.name rfl hroom <|
    faithful_optionalString.turns e.jobTitle rfl hroom <|
    faithful_bool.turns e.isPrimary rfl hroom .nil

theorem faithful_employee : Faithful 1 employeeJson employee :=
  employeeLayout.faithful tells_employee

/-! ## Permissions -/

theorem tells_action (a : PermissionAction) (room : Nat) (hroom : 0 ≤ room) :
    actionLayout.Tells room (actionJson a) a := by
  refine .object ?turns (by simp) (by simp [actionLayout, Field.of])
  exact
    faithful_string.turns a.action rfl hroom <|
    faithful_string.turns a.actionName rfl hroom <|
    faithful_string.turns a.description rfl hroom <|
    faithful_octet.turns a.mark rfl hroom <|
    faithful_word.turns a.sortOrder rfl hroom .nil

theorem faithful_action : Faithful 1 actionJson action :=
  actionLayout.faithful tells_action

theorem tells_resource (r : PermissionResource) (room : Nat) (hroom : 2 ≤ room) :
    resourceLayout.Tells room (resourceJson r) r := by
  refine .object ?turns (by simp) (by simp [resourceLayout, Field.of])
  exact
    faithful_string.turns r.resource rfl (Nat.zero_le room) <|
    faithful_string.turns r.resourceName rfl (Nat.zero_le room) <|
    faithful_action.list.turns r.actions rfl hroom .nil

theorem faithful_resource : Faithful 3 resourceJson resource :=
  resourceLayout.faithful tells_resource

theorem tells_group (g : PermissionGroup) (room : Nat) (hroom : 4 ≤ room) :
    groupLayout.Tells room (groupJson g) g := by
  refine .object ?turns (by simp) (by simp [groupLayout, Field.of])
  exact
    faithful_string.turns g.domain rfl (Nat.zero_le room) <|
    faithful_string.turns g.domainName rfl (Nat.zero_le room) <|
    faithful_resource.list.turns g.resources rfl hroom .nil

theorem faithful_group : Faithful 5 groupJson group :=
  groupLayout.faithful tells_group

/-! ## Organization -/

mutual

theorem plain_nodeJson : (n : RawNode) → (nodeJson n).Plain
  | ⟨p, children⟩ =>
    ⟨trivial, trivial, trivial, plain_nullable p.corpId, plain_nullable p.deptId, plain_nullable p.businessPath,
      plain_nodesJson children, trivial⟩

theorem plain_nodesJson : (forest : List RawNode) → Json.PlainItems (nodesJson forest)
  | [] => trivial
  | n :: rest => ⟨plain_nodeJson n, plain_nodesJson rest⟩

end

theorem tells_node (p : Payload) {children : List RawNode} {read : Nat → Json → Reading (List RawNode)} {room : Nat}
    (h : read room (.array (nodesJson children)) = .ok children) :
    (nodeLayout read).Tells room (nodeJson ⟨p, children⟩) ⟨p, children⟩ := by
  have hroom := Nat.zero_le room
  have hput : (Field.of "children" false read fun x (r : RawNode) => { r with children := x }).put room
      (.array (nodesJson children)) ⟨p, []⟩ = .ok ⟨p, children⟩ := by
    simp only [Field.of, h]
    rfl
  refine .object ?turns (by simp) (by simp [nodeLayout, Field.of])
  exact
    faithful_identifier.turns p.id rfl hroom <|
    faithful_string.turns p.name rfl hroom <|
    faithful_nodeKind.turns p.kind rfl hroom <|
    faithful_optionalId.turns p.corpId rfl hroom <|
    faithful_optionalId.turns p.deptId rfl hroom <|
    faithful_optionalString.turns p.businessPath rfl hroom <|
    .cons rfl (plain_nodesJson children) hput .nil

/-- The children of a node nest two levels further in. -/
theorem depthItems_le_of_nodeJson {p : Payload} {children : List RawNode} :
    Json.depthItems (nodesJson children) + 2 ≤ (nodeJson ⟨p, children⟩).depth := by
  simp only [nodeJson, Json.depth, Json.depthMembers]
  omega

mutual

/-- A node reads back where as many levels are left as it nests. -/
theorem node_nodeJson (room : Nat) : (n : RawNode) → (nodeJson n).depth ≤ room → node room (nodeJson n) = .ok n
  | ⟨p, children⟩, hdepth => by
    have hchildren := Nat.le_trans depthItems_le_of_nodeJson hdepth
    obtain ⟨room, rfl⟩ : ∃ inner, room = inner + 2 := ⟨room - 2, by omega⟩
    have hread := items_nodesJson room children (by omega)
    exact (tells_node p hread).read_eq

theorem items_nodesJson (room : Nat) :
    (forest : List RawNode) → Json.depthItems (nodesJson forest) ≤ room →
      items (node room) (nodesJson forest) = .ok forest
  | [], _ => rfl
  | n :: rest, hdepth => by
    obtain ⟨hn, hrest⟩ := Nat.max_le.mp hdepth
    rw [nodesJson, items, node_nodeJson room n hn, items_nodesJson room rest hrest]
    rfl

end

theorem nodes_array {forest : List RawNode} {room : Nat} (h : (Json.array (nodesJson forest)).depth ≤ room) :
    nodes room (.array (nodesJson forest)) = .ok forest := by
  rw [Json.depth] at h
  obtain ⟨room, rfl⟩ : ∃ inner, room = inner + 1 := ⟨room - 1, by omega⟩
  exact items_nodesJson room forest (by omega)

/-! ## Texts -/

/-- Whatever is written reads back as it was: memberships, employees and permission groups always, a forest
wherever its text nests no deeper than the reader goes. -/
theorem records_read_back :
    (∀ ms : List Membership, readText memberships (Json.array (ms.map membershipJson)).compress = .ok ms) ∧
    (∀ es : List Employee, readText employees (Json.array (es.map employeeJson)).compress = .ok es) ∧
    (∀ gs : List PermissionGroup, readText groups (Json.array (gs.map groupJson)).compress = .ok gs) ∧
    ∀ forest : List RawNode, (Json.array (nodesJson forest)).depth ≤ nestingLimit →
      readText nodes (Json.array (nodesJson forest)).compress = .ok forest := by
  refine ⟨fun ms => ?_, fun es => ?_, fun gs => ?_, fun forest hdepth => ?_⟩
  · exact faithful_membership.list.readText_eq (by decide) ms
  · exact faithful_employee.list.readText_eq (by decide) es
  · exact faithful_group.list.readText_eq (by decide) gs
  · have hplain : (Json.array (nodesJson forest)).Plain := plain_nodesJson forest
    exact (readText_compress hplain nodes).trans (nodes_array hdepth)

/-- A forest over three levels, whose texts need escapes and whose options are partly absent. -/
theorem escaped_forest_reads_back :
    let forest : List RawNode :=
      [⟨⟨"1", "Acme \"East\"\n", .corp, none, none, none⟩,
        [⟨⟨"2", "R\\D ∀", .dept, some "1", some "", some "Acme/R\\D"⟩,
          [⟨⟨"3", "\x01", .dept, none, some "3", none⟩, []⟩]⟩]⟩]
    readText nodes (Json.array (nodesJson forest)).compress = .ok forest :=
  records_read_back.2.2.2 _ (by decide)

end OrgConsole.Wire
