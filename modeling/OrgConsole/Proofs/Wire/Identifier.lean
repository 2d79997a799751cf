import OrgConsole.Proofs.Json.Literal
import OrgConsole.Proofs.Wire.Fields
import OrgConsole.Proofs.Wire.RoundTrip
/-!
# Identifiers

An identifier is a string, or an integer that is kept as its digits. Which of the two the backend writes
makes no difference, and two integers never become one identifier. Optional identifiers are read alike
and may be `null` besides.

An integer is tried with a sign first and without one after that. The two ranges overlap, but what is read
from the overlap is the same in both, and together they leave no gap between the least integer with a sign
and the greatest without one.
-/

namespace OrgConsole.Wire

/-! ## The forms of an identifier -/

/-- A value is read as this form: an integer has a sign wherever that leaves room for it. -/
inductive Encodes : Json → RawId → Prop
  | text (s : String) : Encodes (.string s) (.text s)
  | signed (n : Int64) : Encodes (.number (.integer n.toInt)) (.signed n)
  | unsigned (n : UInt64) (h : 0x7fffffffffffffff < n.toNat) : Encodes (.number (.integer n.toNat)) (.unsigned n)

theorem string_eq_ok_iff {v : Json} {s : String} : string v = .ok s ↔ v = .string s := by
  constructor
  · intro h
    cases v with
    | string s' => rw [Except.ok.inj h]
    | _ => cases h
  · rintro rfl
    rfl

/-- A reading that is tried after another one counts where that fails. -/
theorem orElse_eq_ok_iff {α : Type} {x y : Reading α} {a : α} :
    (x <|> y) = .ok a ↔ x = .ok a ∨ (∀ b, x ≠ .ok b) ∧ y = .ok a := by
  cases x with
  | error e => exact ⟨fun h => .inr ⟨nofun, h⟩, fun h => (h.resolve_left nofun).2⟩
  | ok b => exact ⟨.inl, fun h => h.resolve_right fun hno => hno.1 b rfl⟩

theorem signed_eq_ok_iff {v : Json} {n : Int64} : signed v = .ok n ↔ v = .number (.integer n.toInt) := by
  simp only [signed, bind_eq_ok_iff, integer_eq_ok_iff]
  constructor
  · rintro ⟨m, ⟨rfl, hlow, hhigh⟩, ⟨⟩⟩
    rw [Int64.toInt_ofInt_of_le (by omega) (by omega)]
  · rintro rfl
    have hlow := n.le_toInt
    have hhigh := n.toInt_lt
    exact ⟨n.toInt, ⟨rfl, by omega, by omega⟩, congrArg Except.ok (Int64.ofInt_toInt n)⟩

theorem unsigned_eq_ok_iff {v : Json} {n : UInt64} : unsigned v = .ok n ↔ v = .number (.integer n.toNat) := by
  simp only [unsigned, bind_eq_ok_iff, integer_eq_ok_iff]
  constructor
  · rintro ⟨m, ⟨rfl, hlow, hhigh⟩, ⟨⟩⟩
    rw [UInt64.toNat_ofNat_of_lt' (by simp only [UInt64.size]; omega), Int.toNat_of_nonneg hlow]
  · rintro rfl
    have hhigh := n.toNat_lt
    exact ⟨n.toNat, ⟨rfl, by omega, by omega⟩, congrArg Except.ok UInt64.ofNat_toNat⟩

/-- An integer has a sign exactly if it is in the range of those. -/
theorem exists_signed_iff {n : Int} :
    (∃ i : Int64, i.toInt = n) ↔ -0x8000000000000000 ≤ n ∧ n ≤ 0x7fffffffffffffff := by
  constructor
  · rintro ⟨i, rfl⟩
    have hlow := i.le_toInt
    have hhigh := i.toInt_lt
    omega
  · rintro ⟨hlow, hhigh⟩
    exact ⟨Int64.ofInt n, Int64.toInt_ofInt_of_le (by omega) (by omega)⟩

theorem exists_unsigned_iff {n : Int} : (∃ u : UInt64, (u.toNat : Int) = n) ↔ 0 ≤ n ∧ n ≤ 0xffffffffffffffff := by
  constructor
  · rintro ⟨u, rfl⟩
    have hhigh := u.toNat_lt
    omega
  · rintro ⟨hlow, hhigh⟩
    refine ⟨UInt64.ofNat n.toNat, ?_⟩
    rw [UInt64.toNat_ofNat_of_lt' (by simp only [UInt64.size]; omega), Int.toNat_of_nonneg hlow]

/-- The forms are tried in their order. -/
theorem rawId_eq_ok_iff {v : Json} {raw : RawId} : rawId v = .ok raw ↔ Encodes v raw := by
  simp only [rawId, orElse_eq_ok_iff, map_eq_ok_iff]
  constructor
  · rintro (⟨s, hs, rfl⟩ | ⟨-, ⟨n, hn, rfl⟩ | ⟨hsigned, ⟨n, hn, rfl⟩ | ⟨-, hnone⟩⟩⟩)
    · rw [string_eq_ok_iff.mp hs]
      exact .text s
    · rw [signed_eq_ok_iff.mp hn]
      exact .signed n
    · rw [unsigned_eq_ok_iff.mp hn] at hsigned ⊢
      refine .unsigned n (Nat.lt_of_not_le fun hle => ?_)
      -- It would have been read with a sign.
      obtain ⟨i, hi⟩ := exists_signed_iff.mpr ⟨by omega, Int.ofNat_le.mpr hle⟩
      exact hsigned (.signed i) (map_eq_ok_iff.mpr ⟨i, signed_eq_ok_iff.mpr (by rw [hi]), rfl⟩)
    · cases hnone
  · rintro (s | n | ⟨n, hn⟩)
    · exact .inl ⟨s, rfl, rfl⟩
    · exact .inr ⟨nofun, .inl ⟨n, signed_eq_ok_iff.mpr rfl, rfl⟩⟩
    · refine .inr ⟨nofun, .inr ⟨fun raw h => ?_, .inl ⟨n, unsigned_eq_ok_iff.mpr rfl, rfl⟩⟩⟩
      obtain ⟨i, hi, -⟩ := map_eq_ok_iff.mp h
      have heq : (n.toNat : Int) = i.toInt := by simpa using signed_eq_ok_iff.mp hi
      have hhigh := i.toInt_lt
      omega

/-- Of the integers those are read that have a sign or need none: the two ranges leave no gap. -/
theorem exists_encodes_integer_iff {n : Int} :
    (∃ raw, Encodes (.number (.integer n)) raw) ↔ -0x8000000000000000 ≤ n ∧ n ≤ 0xffffffffffffffff := by
  constructor
  · rintro ⟨_, _ | i | ⟨u, -⟩⟩
    · have hlow := i.le_toInt
      have hhigh := i.toInt_lt
      omega
    · have hhigh := u.toNat_lt
      omega
  · rintro ⟨hlow, hhigh⟩
    by_cases hsigned : n ≤ 0x7fffffffffffffff
    · obtain ⟨i, rfl⟩ := exists_signed_iff.mpr ⟨hlow, hsigned⟩
      exact ⟨.signed i, .signed i⟩
    · obtain ⟨u, rfl⟩ := exists_unsigned_iff.mpr ⟨by omega, hhigh⟩
      exact ⟨.unsigned u, .unsigned u (by omega)⟩

/-- Whichever form an integer has, it is its digits. -/
theorem Encodes.name_eq {n : Int} {raw : RawId} (h : Encodes (.number (.integer n)) raw) : raw.name = toString n := by
  cases h with
  | signed i => rfl
  | unsigned u hu => rfl

/-! ## Values -/

theorem identifier_of_encodes {v : Json} {raw : RawId} (h : Encodes v raw) (room : Nat) :
    identifier room v = .ok raw.name := by
  have hany : anything room v = .ok () := by cases h <;> rfl
  exact bind_eq_ok_iff.mpr ⟨(), hany, bind_eq_ok_iff.mpr ⟨raw, rawId_eq_ok_iff.mpr h, rfl⟩⟩

theorem identifier_eq_ok_iff {room : Nat} {v : Json} {id : String} :
    identifier room v = .ok id ↔
      v = .string id ∨ ∃ n : Int, (-0x8000000000000000 ≤ n ∧ n ≤ 0xffffffffffffffff) ∧
        v = .number (.integer n) ∧ id = toString n := by
  constructor
  · intro h
    obtain ⟨-, -, hraw⟩ := bind_eq_ok_iff.mp h
    obtain ⟨raw, hread, hname⟩ := bind_eq_ok_iff.mp hraw
    obtain rfl : raw.name = id := Except.ok.inj hname
    have hencodes := rawId_eq_ok_iff.mp hread
    cases hencodes with
    | text s => exact .inl rfl
    | signed n => exact .inr ⟨_, exists_encodes_integer_iff.mp ⟨_, .signed n⟩, rfl, rfl⟩
    | unsigned n hn => exact .inr ⟨_, exists_encodes_integer_iff.mp ⟨_, .unsigned n hn⟩, rfl, rfl⟩
  · rintro (rfl | ⟨n, hrange, rfl, rfl⟩)
    · rfl
    · obtain ⟨raw, hencodes⟩ := exists_encodes_integer_iff.mpr hrange
      rw [identifier_of_encodes hencodes, hencodes.name_eq]

theorem optionalId_of_ne_null {v : Json} (h : v ≠ .null) (room : Nat) :
    optionalId room v = some <$> identifier room v := by
  cases v with
  | null => exact absurd rfl h
  | _ => rfl

theorem idOrEmpty_of_ne_null {v : Json} (h : v ≠ .null) (room : Nat) : idOrEmpty room v = identifier room v := by
  rw [idOrEmpty, optionalId_of_ne_null h]
  cases identifier room v with
  | error e => rfl
  | ok id => rfl

/-! ## Texts -/

theorem readText_eq_ok_iff {α : Type} {read : Nat → Json → Reading α} {text : String} {a : α} :
    readText read text = .ok a ↔ ∃ v, Json.read text = (v, true) ∧ read nestingLimit v = .ok a := by
  rcases hread : Json.read text with ⟨v, alone⟩
  simp only [readText, hread, bind_eq_ok_iff]
  refine ⟨?_, ?_⟩
  · rintro ⟨b, hb, hend⟩
    cases alone with
    | true => exact ⟨v, rfl, Except.ok.inj hend ▸ hb⟩
    | false => cases hend
  · rintro ⟨_, ⟨⟩, ha⟩
    exact ⟨a, ha, rfl⟩

/-- What a text keeps as an integer is in the range of identifiers. -/
theorem kept_range {l : Json.IntegerLiteral} (h : l.Kept) :
    -0x8000000000000000 ≤ l.value ∧ l.value ≤ 0xffffffffffffffff :=
  ⟨h.least_le, h.le_greatest⟩

/-- A text is read as an identifier exactly if it is a string, which is the identifier, or if an integer literal
that is kept stands in it, and then the digits of its value are the identifier. -/
theorem readText_identifier_eq_ok_iff {text id : String} :
    readText identifier text = .ok id ↔
      Json.read text = (.string id, true) ∨
        ∃ l : Json.IntegerLiteral, l.StandsIn text ∧ l.Kept ∧ id = toString l.value := by
  simp only [readText_eq_ok_iff, identifier_eq_ok_iff]
  refine ⟨?_, ?_⟩
  · rintro ⟨v, hread, rfl | ⟨n, -, rfl, rfl⟩⟩
    · exact .inl hread
    · obtain ⟨l, hstands, hkept, rfl⟩ := Json.read_eq_integer_iff.mp hread
      exact .inr ⟨l, hstands, hkept, rfl⟩
  · rintro (hread | ⟨l, hstands, hkept, rfl⟩)
    · exact ⟨_, hread, .inl rfl⟩
    · exact ⟨_, Json.read_eq_integer_iff.mpr ⟨l, hstands, hkept, rfl⟩, .inr ⟨_, kept_range hkept, rfl, rfl⟩⟩

/-- A literal that is kept is read as the digits of its value, and no other literal is read. -/
theorem readText_identifier_literal {l : Json.IntegerLiteral} {text : String} (h : l.StandsIn text) (id : String) :
    readText identifier text = .ok id ↔ l.Kept ∧ id = toString l.value := by
  simpa [readText_eq_ok_iff, identifier_eq_ok_iff, h.read_eq, Json.integerOf_eq_integer_iff] using
    fun hkept (_ : id = toString l.value) => kept_range hkept

/-- The integer and the string of its digits are read as one identifier. -/
theorem readText_identifier_eq_string {l : Json.IntegerLiteral} {text : String} (h : l.StandsIn text) (hkept : l.Kept) :
    readText identifier text = readText identifier (Json.string (toString l.value)).compress := by
  rw [(readText_identifier_literal h _).mpr ⟨hkept, rfl⟩]
  exact (faithful_identifier.readText_eq (Nat.zero_le _) (toString l.value)).symm

/-- Integers of at most 64 bits with the same digits are the same, for the digits read back. -/
theorem toString_inj_of_plain {n m : Int} (hn : (Json.number (.integer n)).Plain) (hm : (Json.number (.integer m)).Plain)
    (h : toString n = toString m) : n = m := by
  have htext : (Json.number (.integer n)).compress = (Json.number (.integer m)).compress := by
    simp only [Json.compress, Json.text, Json.numberText, h]
  have hread := Json.read_compress hn
  rw [htext, Json.read_compress hm] at hread
  cases hread
  rfl

theorem readText_identifier_inj {l l' : Json.IntegerLiteral} {text text' : String} (h : l.StandsIn text)
    (h' : l'.StandsIn text') (hkept : l.Kept) (hkept' : l'.Kept) :
    readText identifier text = readText identifier text' ↔ l.value = l'.value := by
  rw [(readText_identifier_literal h _).mpr ⟨hkept, rfl⟩, (readText_identifier_literal h' _).mpr ⟨hkept', rfl⟩]
  refine ⟨fun heq => ?_, fun heq => by rw [heq]⟩
  exact toString_inj_of_plain ⟨hkept.least_le, hkept.le_greatest⟩ ⟨hkept'.least_le, hkept'.le_greatest⟩
    (Except.ok.inj heq)

/-! ## Identifiers of the records -/

/-- The names of the fields of a node, whatever reads its children. -/
def nodeNames : List String :=
  (nodeLayout fun _ _ => .ok []).names

/-- The identifiers of a node are read from the values given for them. -/
theorem node_holds {room : Nat} {v : Json} {n : RawNode} (h : node (room + 1) v = .ok n) :
    Holds (given nodeNames v) "id" (identifier room) none n.label.id ∧
    Holds (given nodeNames v) "corp_id" (optionalId room) (some none) n.label.corpId ∧
    Holds (given nodeNames v) "dept_id" (optionalId room) (some none) n.label.deptId := by
  obtain ⟨children, hread⟩ : ∃ children, (nodeLayout children).read (room + 1) v = .ok n := by
    cases room with
    | zero => exact ⟨_, h⟩
    | succ room => exact ⟨_, h⟩
  have hnames : (nodeLayout children).names.Nodup := by simp [Layout.names, nodeLayout]
  have hid : (nodeLayout children).Keeps "id" true identifier (·.label.id) :=
    ⟨⟨_, rfl, fun _ _ => rfl⟩, by simp [nodeLayout, Field.leaves_of]⟩
  have hcorp : (nodeLayout children).Keeps "corp_id" false optionalId (·.label.corpId) :=
    ⟨⟨_, rfl, fun _ _ => rfl⟩, by simp [nodeLayout, Field.leaves_of]⟩
  have hdept : (nodeLayout children).Keeps "dept_id" false optionalId (·.label.deptId) :=
    ⟨⟨_, rfl, fun _ _ => rfl⟩, by simp [nodeLayout, Field.leaves_of]⟩
  exact ⟨hid.holds hnames hread, hcorp.holds hnames hread, hdept.holds hnames hread⟩

theorem membership_holds {room : Nat} {v : Json} {m : Membership} (h : membership (room + 1) v = .ok m) :
    Holds (given membershipLayout.names v) "department_id" (identifier room) none m.departmentId ∧
    Holds (given membershipLayout.names v) "corp_id" (idOrEmpty room) (some "") m.corpId := by
  have hnames : membershipLayout.names.Nodup := by simp [Layout.names, membershipLayout]
  have hdepartment : membershipLayout.Keeps "department_id" true identifier (·.departmentId) :=
    ⟨⟨_, rfl, fun _ _ => rfl⟩, by simp [membershipLayout, Field.leaves_of]⟩
  have hcorp : membershipLayout.Keeps "corp_id" false idOrEmpty (·.corpId) :=
    ⟨⟨_, rfl, fun _ _ => rfl⟩, by simp [membershipLayout, Field.leaves_of]⟩
  exact ⟨hdepartment.holds hnames h, hcorp.holds hnames h⟩

theorem employee_holds {room : Nat} {v : Json} {e : Employee} (h : employee (room + 1) v = .ok e) :
    Holds (given employeeLayout.names v) "id" (identifier room) none e.id := by
  have hnames : employeeLayout.names.Nodup := by simp [Layout.names, employeeLayout]
  have hid : employeeLayout.Keeps "id" true identifier (·.id) :=
    ⟨⟨_, rfl, fun _ _ => rfl⟩, by simp [employeeLayout, Field.leaves_of]⟩
  exact hid.holds hnames h

/-! ## All together -/

/-- Identifiers are read alike however they are written. -/
structure IdentifiersAlike : Prop where
  /-- The forms are tried in their order: a string, an integer with a sign, and one without. -/
  forms : ∀ (v : Json) (raw : RawId), rawId v = .ok raw ↔ Encodes v raw
  /-- An integer has one of the two forms if it lies between the least and the greatest, -/
  ranges : ∀ n : Int, (∃ raw, Encodes (.number (.integer n)) raw) ↔
    -0x8000000000000000 ≤ n ∧ n ≤ 0xffffffffffffffff
  /-- and which of the two it has makes no difference. -/
  digits : ∀ (n : Int) (raw : RawId), Encodes (.number (.integer n)) raw → raw.name = toString n
  /-- So a value is an identifier if it is a string, or an integer in that range, which is kept as its digits. -/
  value : ∀ (room : Nat) (v : Json) (id : String), identifier room v = .ok id ↔
    v = .string id ∨ ∃ n : Int, (-0x8000000000000000 ≤ n ∧ n ≤ 0xffffffffffffffff) ∧
      v = .number (.integer n) ∧ id = toString n
  /-- A value is an integer where a literal stands that is not minus zero and is in range. -/
  integer : ∀ (fuel : Nat) (cs rest : List Char) (n : Int),
    Json.readValue (fuel + 1) cs = (.number (.integer n), rest) ↔
      ∃ l : Json.IntegerLiteral, Json.skipBlank cs = l.text ++ rest ∧ Json.EndsNumber rest ∧ l.Kept ∧ n = l.value
  /-- A text is an identifier if it is a string, or if such a literal stands in it. -/
  text : ∀ text id : String, readText identifier text = .ok id ↔
    Json.read text = (.string id, true) ∨
      ∃ l : Json.IntegerLiteral, l.StandsIn text ∧ l.Kept ∧ id = toString l.value
  /-- A literal is read as its value in digits, and is refused if it is minus zero or out of range. -/
  literal : ∀ (l : Json.IntegerLiteral) (text id : String), l.StandsIn text →
    (readText identifier text = .ok id ↔ l.Kept ∧ id = toString l.value)
  /-- An integer and the string of its digits are one identifier. -/
  string : ∀ (l : Json.IntegerLiteral) (text : String), l.StandsIn text → l.Kept →
    readText identifier text = readText identifier (Json.string (toString l.value)).compress
  /-- Different integers are different identifiers. -/
  distinct : ∀ (l l' : Json.IntegerLiteral) (text text' : String), l.StandsIn text → l'.StandsIn text' →
    l.Kept → l'.Kept → (readText identifier text = readText identifier text' ↔ l.value = l'.value)
  /-- Optional identifiers are read alike, -/
  optional : ∀ (room : Nat) (v : Json), v ≠ .null →
    optionalId room v = some <$> identifier room v ∧ idOrEmpty room v = identifier room v
  /-- and they may be `null`. -/
  null : ∀ room : Nat, optionalId room .null = .ok none ∧ idOrEmpty room .null = .ok ""
  node : ∀ (room : Nat) (v : Json) (n : RawNode), node (room + 1) v = .ok n →
    Holds (given nodeNames v) "id" (identifier room) none n.label.id ∧
    Holds (given nodeNames v) "corp_id" (optionalId room) (some none) n.label.corpId ∧
    Holds (given nodeNames v) "dept_id" (optionalId room) (some none) n.label.deptId
  membership : ∀ (room : Nat) (v : Json) (m : Membership), membership (room + 1) v = .ok m →
    Holds (given membershipLayout.names v) "department_id" (identifier room) none m.departmentId ∧
    Holds (given membershipLayout.names v) "corp_id" (idOrEmpty room) (some "") m.corpId
  employee : ∀ (room : Nat) (v : Json) (e : Employee), employee (room + 1) v = .ok e →
    Holds (given employeeLayout.names v) "id" (identifier room) none e.id

/-- Whether a text or a record gives an identifier as a string or as an integer makes no difference. -/
theorem identifiers_alike : IdentifiersAlike where
  forms _ _ := rawId_eq_ok_iff
  ranges _ := exists_encodes_integer_iff
  digits _ _ := Encodes.name_eq
  value _ _ _ := identifier_eq_ok_iff
  integer _ _ _ _ := Json.readValue_eq_integer_iff
  text _ _ := readText_identifier_eq_ok_iff
  literal _ _ id h := readText_identifier_literal h id
  string _ _ := readText_identifier_eq_string
  distinct _ _ _ _ := readText_identifier_inj
  optional room _ h := ⟨optionalId_of_ne_null h room, idOrEmpty_of_ne_null h room⟩
  null _ := ⟨rfl, rfl⟩
  node _ _ _ := node_holds
  membership _ _ _ := membership_holds
  employee _ _ _ := employee_holds

/-- The greatest integer between blanks, and a node with integers for identifiers. -/
theorem identifiers_alike_of_integers :
    let greatest : Json.IntegerLiteral :=
      ⟨false, "18446744073709551615".toList, List.all_eq_true.mp (by decide), by decide, by decide⟩
    let v : Json := .object
      [("id", .number (.integer 42)), ("name", .string "Platform"), ("node_type", .string "dept"),
        ("corp_id", .number (.integer 7))]
    let n : RawNode := ⟨⟨"42", "Platform", .dept, some "7", none, none⟩, []⟩
    (greatest.StandsIn " 18446744073709551615\n" ∧ greatest.Kept ∧
      readText identifier " 18446744073709551615\n" =
        readText identifier (Json.string (toString greatest.value)).compress) ∧
    node 2 v = .ok n ∧ Holds (given nodeNames v) "corp_id" (optionalId 1) (some none) n.label.corpId := by
  intro greatest v n
  have hstands : greatest.StandsIn " 18446744073709551615\n" :=
    ⟨[' '], ['\n'], List.all_eq_true.mp (by decide), List.all_eq_true.mp (by decide), by decide⟩
  have hkept : greatest.Kept := (Json.IntegerLiteral.kept_iff_of_positive rfl).mpr (by decide +kernel)
  have hnode : node 2 v = .ok n := by rfl
  exact ⟨⟨hstands, hkept, identifiers_alike.string _ _ hstands hkept⟩, hnode, (identifiers_alike.node 1 v n hnode).2.1⟩

end OrgConsole.Wire
