import Mathlib.Data.List.Nodup
import OrgConsole.Wire.Records
/-!
# Fields of a record that is read

A record that is read has in each field what the reader of the field makes of the value given for it, and
the default of the field where none is given. Objects and arrays come to the same: both give values for
fields, at most one for each, and the values are put into the record one after the other.
-/

namespace OrgConsole.Wire

/-! ## Readings -/

theorem bind_eq_ok_iff {α β : Type} {x : Reading α} {f : α → Reading β} {b : β} :
    x >>= f = .ok b ↔ ∃ a, x = .ok a ∧ f a = .ok b := by
  cases x with
  | error e => exact ⟨nofun, nofun⟩
  | ok a => exact ⟨fun h => ⟨a, rfl, h⟩, fun ⟨_, ha, h⟩ => Except.ok.inj ha ▸ h⟩

theorem map_eq_ok_iff {α β : Type} {x : Reading α} {f : α → β} {b : β} :
    f <$> x = .ok b ↔ ∃ a, x = .ok a ∧ f a = b := by
  cases x with
  | error e => exact ⟨nofun, nofun⟩
  | ok a => exact ⟨fun h => ⟨a, rfl, Except.ok.inj h⟩, fun ⟨_, ha, h⟩ => Except.ok.inj ha ▸ congrArg _ h⟩

/-! ## One field -/

variable {ρ α : Type}

/-- Putting a value into the field leaves what the record has under `get`. -/
def Field.Leaves (f : Field ρ) (get : ρ → α) : Prop :=
  ∀ (room : Nat) (v : Json) (r r' : ρ), f.put room v r = .ok r' → get r' = get r

@[simp]
theorem Field.of_name {β : Type} {name : String} {required : Bool} {read : Nat → Json → Reading β}
    {set : β → ρ → ρ} : (Field.of name required read set).name = name := rfl

theorem Field.leaves_of {β : Type} {name : String} {required : Bool} {read : Nat → Json → Reading β}
    {set : β → ρ → ρ} {get : ρ → α} (h : ∀ b r, get (set b r) = get r) :
    (Field.of name required read set).Leaves get := by
  intro room v r r' hput
  obtain ⟨b, -, rfl⟩ := map_eq_ok_iff.mp hput
  exact h b r

/-! ## Values put in one after the other -/

/-- The values that an object or an array gives for the fields of a record with these names. -/
def given (names : List String) : Json → List (String × Json)
  | .object members => members
  | .array items => names.zip items
  | _ => []

namespace Layout

variable {l : Layout ρ} {room : Nat}

/-- The names of the fields, in their order. -/
def names (l : Layout ρ) : List String :=
  l.fields.map (·.name)

/-- Values given for fields turn one record into another: those for unknown fields are passed over, and no
known field is given twice. -/
inductive Takes (l : Layout ρ) (room : Nat) : List (String × Json) → ρ → ρ → Prop
  | nil {r : ρ} : Takes l room [] r r
  | unknown {key : String} {v : Json} {rest : List (String × Json)} {r r' : ρ}
      (unknown : ∀ f ∈ l.fields, f.name ≠ key) (more : Takes l room rest r r') : Takes l room ((key, v) :: rest) r r'
  | put {f : Field ρ} {v : Json} {rest : List (String × Json)} {r r' r'' : ρ} (field : f ∈ l.fields)
      (once : f.name ∉ rest.map (·.1)) (put : f.put room v r = .ok r') (more : Takes l room rest r' r'') :
      Takes l room ((f.name, v) :: rest) r r''

/-- What reading one member does. -/
theorem readMembers_cons_eq_ok {key : String} {v : Json} {rest : List (String × Json)} {seen : List String}
    {r : ρ} {x : ρ × List String} (h : l.readMembers room seen r ((key, v) :: rest) = .ok x) :
    ((∀ f ∈ l.fields, f.name ≠ key) ∧ l.readMembers room seen r rest = .ok x) ∨
      ∃ f ∈ l.fields, ∃ r', f.name = key ∧ key ∉ seen ∧ f.put room v r = .ok r' ∧
        l.readMembers room (key :: seen) r' rest = .ok x := by
  unfold readMembers at h
  split at h
  · rename_i heq
    cases heq
  · cases h
  · rename_i heq
    cases heq
    split at h
    · rename_i hfind
      obtain ⟨_, -, hrest⟩ := bind_eq_ok_iff.mp h
      exact .inl ⟨by simpa using hfind, hrest⟩
    · rename_i f hfind
      split at h
      · cases h
      · rename_i hnew
        obtain ⟨r', hput, hrest⟩ := bind_eq_ok_iff.mp h
        exact .inr ⟨f, List.mem_of_find?_eq_some hfind, r', by simpa using List.find?_some hfind, hnew, hput, hrest⟩

/-- The members of an object are taken in: no field that was given before is given again, and what is given
in the end was given before or is among the members. -/
theorem takes_of_readMembers {members : List (String × Json)} {seen seen' : List String} {r r' : ρ}
    (h : l.readMembers room seen r members = .ok (r', seen')) :
    l.Takes room members r r' ∧ (∀ f ∈ l.fields, f.name ∈ seen → f.name ∉ members.map (·.1)) ∧
      ∀ key ∈ seen', key ∈ seen ∨ key ∈ members.map (·.1) := by
  induction members generalizing seen r with
  | nil =>
    cases h
    exact ⟨.nil, fun _ _ _ => List.not_mem_nil, fun _ hkey => .inl hkey⟩
  | cons m rest ih =>
    obtain ⟨key, v⟩ := m
    rcases readMembers_cons_eq_ok h with ⟨hunknown, hrest⟩ | ⟨f, hf, r₁, rfl, hnew, hput, hrest⟩
    · obtain ⟨htakes, honce, hseen⟩ := ih hrest
      refine ⟨.unknown hunknown htakes, fun g hg hgiven => ?_, fun k hk => ?_⟩
      · exact List.not_mem_cons_of_ne_of_not_mem (hunknown g hg) (honce g hg hgiven)
      · exact (hseen k hk).imp_right (List.mem_cons_of_mem _)
    · obtain ⟨htakes, honce, hseen⟩ := ih hrest
      refine ⟨.put hf (honce f hf List.mem_cons_self) hput htakes, fun g hg hgiven => ?_, fun k hk => ?_⟩
      · have hne : g.name ≠ f.name := fun heq => hnew (heq ▸ hgiven)
        exact List.not_mem_cons_of_ne_of_not_mem hne (honce g hg (List.mem_cons_of_mem _ hgiven))
      · rcases hseen k hk with hk | hk
        · exact (List.mem_cons.mp hk).elim (fun heq => .inr (heq ▸ List.mem_cons_self)) .inl
        · exact .inr (List.mem_cons_of_mem _ hk)

theorem complete_eq_ok {seen : List String} (h : l.complete seen = .ok ()) :
    ∀ f ∈ l.fields, f.required = true → f.name ∈ seen := by
  unfold complete at h
  split at h
  · cases h
  · rename_i hnone
    simpa using hnone

/-- The items of an array are taken in as the fields `fields`, which are those of the record that come
last. -/
theorem takes_of_readItems {fields : List (Field ρ)} {items : List Json} {taken : Nat} {r r' : ρ}
    (hfields : fields ⊆ l.fields) (hnames : (fields.map (·.name)).Nodup)
    (h : l.readItems room taken r fields items = .ok r') :
    l.Takes room ((fields.map (·.name)).zip items) r r' ∧
      ∀ f ∈ fields, f.required = true → f.name ∈ ((fields.map (·.name)).zip items).map (·.1) := by
  induction fields generalizing items taken r with
  | nil =>
    cases items with
    | nil =>
      cases h
      exact ⟨.nil, nofun⟩
    | cons v items =>
      unfold readItems at h
      split at h <;> simp_all
  | cons f fields ih =>
    obtain ⟨hf, hfields⟩ := List.cons_subset.mp hfields
    obtain ⟨hnew, hnames⟩ := List.nodup_cons.mp hnames
    have hfirst : ∀ {items : List Json}, f.name ∉ ((fields.map (·.name)).zip items).map (·.1) := fun hmem => by
      obtain ⟨⟨_, v⟩, hzip, rfl⟩ := List.mem_map.mp hmem
      exact hnew (List.of_mem_zip hzip).1
    cases items with
    | nil =>
      rw [readItems] at h
      split at h
      · cases h
      · rename_i hoptional
        obtain ⟨htakes, hrequired⟩ := ih hfields hnames h
        rw [List.zip_nil_right] at htakes hrequired ⊢
        refine ⟨htakes, fun g hg hg' => ?_⟩
        rcases List.mem_cons.mp hg with rfl | hg
        · exact absurd hg' hoptional
        · exact hrequired g hg hg'
    | cons v items =>
      rw [readItems] at h
      obtain ⟨r₁, hput, hrest⟩ := bind_eq_ok_iff.mp h
      obtain ⟨htakes, hrequired⟩ := ih hfields hnames hrest
      refine ⟨.put hf hfirst hput htakes, fun g hg hg' => ?_⟩
      rcases List.mem_cons.mp hg with rfl | hg
      · exact List.mem_cons_self
      · exact List.mem_cons_of_mem _ (hrequired g hg hg')

/-- A record is read by taking in what is given for its fields, and every required field is given. -/
theorem takes_of_read {v : Json} {r : ρ} (hnames : l.names.Nodup) (h : l.read (room + 1) v = .ok r) :
    l.Takes room (given l.names v) l.blank r ∧
      ∀ f ∈ l.fields, f.required = true → f.name ∈ (given l.names v).map (·.1) := by
  cases v with
  | object members =>
    obtain ⟨_, ⟨⟩, hbody⟩ := bind_eq_ok_iff.mp h
    obtain ⟨⟨r', seen⟩, hread, hrest⟩ := bind_eq_ok_iff.mp hbody
    obtain ⟨⟨⟩, hcomplete, ⟨⟩⟩ := bind_eq_ok_iff.mp hrest
    obtain ⟨htakes, -, hseen⟩ := takes_of_readMembers hread
    refine ⟨htakes, fun f hf hrequired => ?_⟩
    exact (hseen f.name (complete_eq_ok hcomplete f hf hrequired)).resolve_left List.not_mem_nil
  | array items => exact takes_of_readItems (List.Subset.refl _) hnames h
  | _ => cases h

end Layout

/-! ## What a field holds -/

/-- What a record holds in a field, where `values` are given for its fields: what `read` makes of the value
for this one, or the default where there is none. -/
structure Holds (values : List (String × Json)) (name : String) (read : Json → Reading α) (default : Option α)
    (found : α) : Prop where
  given : ∀ v, (name, v) ∈ values → read v = .ok found
  absent : name ∉ values.map (·.1) → default = some found

namespace Layout

variable {l : Layout ρ} {room : Nat} {name : String} {required : Bool} {read : Nat → Json → Reading α} {get : ρ → α}

/-- A record keeps what `read` makes of the field `name` under `get`, where no other field changes it. -/
structure Keeps (l : Layout ρ) (name : String) (required : Bool) (read : Nat → Json → Reading α) (get : ρ → α) :
    Prop where
  stored : ∃ set, l.fields.find? (·.name = name) = some (.of name required read set) ∧ ∀ a r, get (set a r) = a
  left : ∀ f ∈ l.fields, f.name ≠ name → f.Leaves get

theorem Keeps.exists_field (h : l.Keeps name required read get) :
    ∃ set, .of name required read set ∈ l.fields ∧ ∀ a r, get (set a r) = a :=
  h.stored.imp fun _ ⟨hfind, hset⟩ => ⟨List.mem_of_find?_eq_some hfind, hset⟩

theorem Keeps.of_takes (h : l.Keeps name required read get) (hnames : l.names.Nodup)
    {values : List (String × Json)} {r r' : ρ} (htakes : l.Takes room values r r') :
    (∀ w, (name, w) ∈ values → read room w = .ok (get r')) ∧ (name ∉ values.map (·.1) → get r' = get r) := by
  induction htakes with
  | nil => exact ⟨nofun, fun _ => rfl⟩
  | @unknown key v rest r r' hunknown _ ih =>
    obtain ⟨set, hmem, -⟩ := h.exists_field
    have hne : name ≠ key := hunknown _ hmem
    refine ⟨fun w hw => ?_, fun hnot => ih.2 (mt (List.mem_cons_of_mem _) hnot)⟩
    rcases List.mem_cons.mp hw with heq | hw
    · exact absurd (congrArg Prod.fst heq) hne
    · exact ih.1 w hw
  | @put f v rest r r₁ r' hf honce hput _ ih =>
    by_cases hname : f.name = name
    · -- The value is stored here, and since it is given once nothing behind it is stored over it.
      obtain ⟨set, hmem, hset⟩ := h.exists_field
      obtain rfl := List.inj_on_of_nodup_map hnames hf hmem hname
      obtain ⟨a, hread, rfl⟩ := map_eq_ok_iff.mp hput
      have hkept : get r' = a := (ih.2 honce).trans (hset a r)
      refine ⟨fun w hw => ?_, fun hnot => absurd List.mem_cons_self hnot⟩
      rcases List.mem_cons.mp hw with heq | hw
      · cases heq
        rw [hread, hkept]
      · exact absurd (List.mem_map_of_mem hw) honce
    · have hleft := h.left f hf hname room v r r₁ hput
      refine ⟨fun w hw => ?_, fun hnot => (ih.2 (mt (List.mem_cons_of_mem _) hnot)).trans hleft⟩
      rcases List.mem_cons.mp hw with heq | hw
      · exact absurd (congrArg Prod.fst heq).symm hname
      · exact ih.1 w hw

/-- What a record holds after reading, in a field that it keeps. -/
theorem Keeps.holds (h : l.Keeps name required read get) (hnames : l.names.Nodup) {v : Json} {r : ρ}
    (hread : l.read (room + 1) v = .ok r) :
    Holds (given l.names v) name (read room) (if required then none else some (get l.blank)) (get r) := by
  obtain ⟨htakes, hgiven⟩ := takes_of_read hnames hread
  obtain ⟨hfound, hdefault⟩ := h.of_takes hnames htakes
  refine ⟨hfound, fun hnot => ?_⟩
  obtain ⟨set, hmem, -⟩ := h.exists_field
  cases required with
  | true => exact absurd (hgiven _ hmem rfl) hnot
  | false => exact congrArg some (hdefault hnot).symm

end Layout

end OrgConsole.Wire
