import OrgConsole.Proofs.Json.Scalar
/-!
# Values read back

Every value without faults whose numbers are integers of at most 64 bits reads back from its text, and
nothing of the text is left. A value is read in front of any text, as long as no number goes on there,
so that the parts of a value read back where they stand.
-/

namespace OrgConsole.Json

mutual

/-- A value that its text tells in full: it has no fault, and its numbers are integers of at most
64 bits. -/
def Plain : Json → Prop
  | null | bool _ | string _ => True
  | number (.integer n) => Number.least ≤ n ∧ n ≤ Number.greatest
  | number (.decimal ..) => False
  | array items => PlainItems items
  | object members => PlainMembers members
  | fault _ _ => False

/-- Items that their text tells in full. -/
def PlainItems : List Json → Prop
  | [] => True
  | v :: rest => v.Plain ∧ PlainItems rest

/-- Members that their text tells in full. -/
def PlainMembers : List (String × Json) → Prop
  | [] => True
  | (_, v) :: rest => v.Plain ∧ PlainMembers rest

end

theorem plainItems_iff {items : List Json} : PlainItems items ↔ ∀ v ∈ items, v.Plain := by
  induction items with
  | nil => simp [PlainItems]
  | cons v rest ih => rw [PlainItems, ih, List.forall_mem_cons]

/-! ## Values by their first character -/

theorem skipBlank_cons {c : Char} (h : isBlank c = false) (cs : List Char) : skipBlank (c :: cs) = c :: cs :=
  List.dropWhile_cons_of_neg (by simp [h])

theorem digit_ne {c d : Char} (h : c.isDigit = true) (hd : d.isDigit = false) : c ≠ d := by
  rintro rfl
  rw [h] at hd
  cases hd

theorem isBlank_digit {c : Char} (h : c.isDigit = true) : isBlank c = false := by
  have hne := fun d => digit_ne (d := d) h
  simp [isBlank, hne ' ' (by decide), hne '\n' (by decide), hne '\t' (by decide), hne '\r' (by decide)]

theorem readValue_digit {c : Char} (h : c.isDigit = true) (fuel : Nat) (cs : List Char) :
    readValue (fuel + 1) (c :: cs) = readNumber false (c :: cs) := by
  unfold readValue
  rw [skipBlank_cons (isBlank_digit h)]
  -- None of the characters that begin other values is a digit.
  split <;> simp_all

/-- The digits of a number, of which there is a first. -/
theorem toDigits_cons (n : Nat) : ∃ c digits, Nat.toDigits 10 n = c :: digits ∧ c.isDigit = true := by
  have hall : ∀ c ∈ Nat.toDigits 10 n, c.isDigit = true := fun c =>
    Nat.isDigit_of_mem_toDigits (by decide) (by decide)
  cases hdigits : Nat.toDigits 10 n with
  | nil => exact absurd hdigits (List.ne_nil_of_length_pos Nat.length_toDigits_pos)
  | cons c digits => exact ⟨c, digits, rfl, hall c (hdigits ▸ List.mem_cons_self)⟩

theorem numberText_ofNat (n : Nat) : numberText (.integer n) = Nat.toDigits 10 n := by
  rw [numberText, Int.toString_eq_repr]
  exact Nat.toList_repr

theorem numberText_negSucc (n : Nat) : numberText (.integer (Int.negSucc n)) = '-' :: Nat.toDigits 10 (n + 1) := by
  rw [numberText, Int.toString_eq_repr, Int.repr, String.toList_append, Nat.succ_eq_add_one, Nat.toList_repr]
  rfl

theorem readValue_integer {n : Int} (h : Number.least ≤ n ∧ n ≤ Number.greatest) (fuel : Nat) {rest : List Char}
    (hrest : EndsNumber rest) :
    readValue (fuel + 1) (numberText (.integer n) ++ rest) = (.number (.integer n), rest) := by
  cases n with
  | ofNat n =>
    have hn : (n : Int) ≤ 0xffffffffffffffff := h.2
    have hread := readNumber_toDigits false n hrest
    rw [integerOf_toDigits (by omega)] at hread
    obtain ⟨c, digits, hdigits, hc⟩ := toDigits_cons n
    rw [hdigits, List.cons_append] at hread
    rw [Int.ofNat_eq_natCast, numberText_ofNat, hdigits, List.cons_append, readValue_digit hc]
    exact hread
  | negSucc n =>
    have hneg : Int.negSucc n = -((n + 1 : Nat) : Int) := Int.negSucc_eq n
    have hread := readNumber_toDigits true (n + 1) hrest
    rw [integerOf_toDigits_neg n.succ_pos (hneg ▸ h.1), ← hneg] at hread
    rw [numberText_negSucc]
    exact hread

theorem readValue_string (s : String) (fuel : Nat) (rest : List Char) :
    readValue (fuel + 1) (quote s ++ rest) = (.string s, rest) := by
  have hread := readString_quote s rest
  rw [quote, List.cons_append, List.append_assoc]
  show (readString (s.toList.flatMap escape ++ '"' :: rest)).toValue = _
  rw [hread, Quoted.toValue, List.reverse_reverse, String.ofList_toList]

theorem readValue_array {c : Char} (hblank : isBlank c = false) (hclose : c ≠ ']') (fuel : Nat) (cs : List Char) :
    readValue (fuel + 1) ('[' :: c :: cs) = ((.array (readItems fuel (c :: cs)).1), (readItems fuel (c :: cs)).2) := by
  unfold readValue
  rw [skipBlank_cons (by decide)]
  simp only [skipBlank_cons hblank]
  split
  · rename_i hnil
    cases hnil
  · rename_i heq
    exact absurd (List.cons.inj heq).1 hclose
  · rfl

theorem readValue_object (fuel : Nat) (cs : List Char) :
    readValue (fuel + 1) ('\x7b' :: '"' :: cs) =
      ((.object (readMembers fuel ('"' :: cs)).1), (readMembers fuel ('"' :: cs)).2) := by
  unfold readValue
  rw [skipBlank_cons (by decide)]
  have hquote : skipBlank ('"' :: cs) = '"' :: cs := skipBlank_cons (by decide) cs
  simp only [hquote]
  rfl

/-- The text of a value begins with neither a blank nor the end of a list. -/
theorem text_cons {v : Json} (h : v.Plain) : ∃ c cs, v.text = c :: cs ∧ isBlank c = false ∧ c ≠ ']' := by
  match v with
  | null => exact ⟨_, _, rfl, by decide, by decide⟩
  | bool true => exact ⟨_, _, rfl, by decide, by decide⟩
  | bool false => exact ⟨_, _, rfl, by decide, by decide⟩
  | string s => exact ⟨_, _, rfl, by decide, by decide⟩
  | array items => exact ⟨_, _, rfl, by decide, by decide⟩
  | object members => exact ⟨_, _, rfl, by decide, by decide⟩
  | number (.integer (.ofNat n)) =>
    obtain ⟨c, digits, hdigits, hc⟩ := toDigits_cons n
    refine ⟨c, digits, ?_, isBlank_digit hc, digit_ne hc (by decide)⟩
    rw [text, Int.ofNat_eq_natCast, numberText_ofNat, hdigits]
  | number (.integer (.negSucc n)) =>
    exact ⟨'-', Nat.toDigits 10 (n + 1), numberText_negSucc n, by decide, by decide⟩

/-! ## One item and one member -/

theorem readItems_last {fuel : Nat} {cs rest : List Char} {v : Json} (h : readValue fuel cs = (v, ']' :: rest)) :
    readItems (fuel + 1) cs = ([v], rest) := by
  have hskip : skipBlank (']' :: rest) = ']' :: rest := skipBlank_cons (by decide) rest
  rw [readItems, h]
  simp only [hskip]

theorem readItems_more {fuel : Nat} {cs rest : List Char} {v : Json} (h : readValue fuel cs = (v, ',' :: rest)) :
    readItems (fuel + 1) cs = (v :: (readItems fuel rest).1, (readItems fuel rest).2) := by
  have hskip : skipBlank (',' :: rest) = ',' :: rest := skipBlank_cons (by decide) rest
  rw [readItems, h]
  simp only [hskip]

/-- A member begins with its key in quotes, and a colon. -/
theorem readMembers_quote (fuel : Nat) (key : String) (cs : List Char) :
    readMembers (fuel + 1) (quote key ++ ':' :: cs) =
      readMembers (fuel + 1) ('"' :: (key.toList.flatMap escape ++ '"' :: ':' :: cs)) := by
  rw [quote, List.cons_append, List.append_assoc, List.singleton_append]

theorem readMembers_last {fuel : Nat} {cs rest : List Char} {v : Json} (key : String)
    (h : readValue fuel cs = (v, '\x7d' :: rest)) :
    readMembers (fuel + 1) (quote key ++ ':' :: cs) = ([(key, v)], rest) := by
  have hskip : skipBlank ('\x7d' :: rest) = '\x7d' :: rest := skipBlank_cons (by decide) rest
  have hcolon : skipBlank (':' :: cs) = ':' :: cs := skipBlank_cons (by decide) cs
  rw [readMembers_quote, readMembers, skipBlank_cons (by decide)]
  simp only [readString_quote, List.reverse_reverse, String.ofList_toList, hcolon, h, hskip]

theorem readMembers_more {fuel : Nat} {cs rest : List Char} {v : Json} (key : String)
    (h : readValue fuel cs = (v, ',' :: rest)) :
    readMembers (fuel + 1) (quote key ++ ':' :: cs) =
      ((key, v) :: (readMembers fuel rest).1, (readMembers fuel rest).2) := by
  have hskip : skipBlank (',' :: rest) = ',' :: rest := skipBlank_cons (by decide) rest
  have hcolon : skipBlank (':' :: cs) = ':' :: cs := skipBlank_cons (by decide) cs
  rw [readMembers_quote, readMembers, skipBlank_cons (by decide)]
  simp only [readString_quote, List.reverse_reverse, String.ofList_toList, hcolon, h, hskip]

theorem textItems_cons_cons (v w : Json) (rest : List Json) :
    textItems (v :: w :: rest) = v.text ++ ',' :: textItems (w :: rest) := by
  rw [textItems]
  simp

theorem textMembers_cons_cons (key : String) (v : Json) (m : String × Json) (rest : List (String × Json)) :
    textMembers ((key, v) :: m :: rest) = quote key ++ ':' :: v.text ++ ',' :: textMembers (m :: rest) := by
  rw [textMembers]
  simp

/-- The text of items begins as that of the first. -/
theorem textItems_append (v : Json) (rest : List Json) : ∃ more, textItems (v :: rest) = v.text ++ more := by
  cases rest with
  | nil => exact ⟨[], by rw [textItems, List.append_nil]⟩
  | cons w rest => exact ⟨_, textItems_cons_cons v w rest⟩

/-- The text of members begins with the quote of the first key. -/
theorem textMembers_quote (m : String × Json) (rest : List (String × Json)) :
    ∃ more, textMembers (m :: rest) = '"' :: more := by
  obtain ⟨key, v⟩ := m
  cases rest with
  | nil => exact ⟨_, by rw [textMembers, quote, List.cons_append]⟩
  | cons m rest => exact ⟨_, by rw [textMembers_cons_cons, quote, List.cons_append, List.cons_append]⟩

/-! ## Whole values -/

mutual

/-- A plain value reads back from its text, in front of any text that does not begin as more of a number.
The text bounds the fuel, for every value within takes at least one character. -/
theorem readValue_text (fuel : Nat) {rest : List Char} (hrest : EndsNumber rest) :
    (v : Json) → v.Plain → v.text.length < fuel → readValue fuel (v.text ++ rest) = (v, rest)
  | null, _, hfuel => by
    obtain ⟨fuel, rfl⟩ := Nat.exists_eq_add_of_lt hfuel
    rfl
  | bool true, _, hfuel => by
    obtain ⟨fuel, rfl⟩ := Nat.exists_eq_add_of_lt hfuel
    rfl
  | bool false, _, hfuel => by
    obtain ⟨fuel, rfl⟩ := Nat.exists_eq_add_of_lt hfuel
    rfl
  | string s, _, hfuel => by
    obtain ⟨fuel, rfl⟩ := Nat.exists_eq_add_of_lt hfuel
    exact readValue_string s _ rest
  | number (.integer n), hplain, hfuel => by
    obtain ⟨fuel, rfl⟩ := Nat.exists_eq_add_of_lt hfuel
    exact readValue_integer hplain _ hrest
  | array [], _, hfuel => by
    obtain ⟨fuel, rfl⟩ := Nat.exists_eq_add_of_lt hfuel
    rfl
  | array (v :: items), hplain, hfuel => by
    obtain ⟨more, hmore⟩ := textItems_append v items
    obtain ⟨c, cs, htext, hblank, hclose⟩ := text_cons hplain.1
    cases fuel with
    | zero => exact absurd hfuel (Nat.not_lt_zero _)
    | succ fuel =>
      have hlength : (textItems (v :: items)).length + 1 < fuel := by
        simp only [text, List.length_cons, List.length_append, List.length_nil] at hfuel
        omega
      have hitems := readItems_text fuel rest v items hplain hlength
      rw [text, List.cons_append, List.append_assoc, List.singleton_append]
      rw [hmore, htext] at hitems ⊢
      rw [List.cons_append, List.cons_append] at hitems ⊢
      rw [readValue_array hblank hclose, hitems]
  | object [], _, hfuel => by
    obtain ⟨fuel, rfl⟩ := Nat.exists_eq_add_of_lt hfuel
    rfl
  | object (m :: members), hplain, hfuel => by
    obtain ⟨more, hmore⟩ := textMembers_quote m members
    cases fuel with
    | zero => exact absurd hfuel (Nat.not_lt_zero _)
    | succ fuel =>
      have hlength : (textMembers (m :: members)).length + 1 < fuel := by
        simp only [text, List.length_cons, List.length_append, List.length_nil] at hfuel
        omega
      have hmembers := readMembers_text fuel rest m members hplain hlength
      rw [text, List.cons_append, List.append_assoc, List.singleton_append]
      rw [hmore, List.cons_append] at hmembers ⊢
      rw [readValue_object, hmembers]

/-- Items read back from their text, up to the end of their list. -/
theorem readItems_text (fuel : Nat) (rest : List Char) :
    (v : Json) → (items : List Json) → PlainItems (v :: items) → (textItems (v :: items)).length + 1 < fuel →
      readItems fuel (textItems (v :: items) ++ ']' :: rest) = (v :: items, rest)
  | v, [], hplain, hfuel => by
    rw [textItems] at hfuel ⊢
    cases fuel with
    | zero => exact absurd hfuel (Nat.not_lt_zero _)
    | succ fuel =>
      have hclose : EndsNumber (']' :: rest) := endsNumber_cons (by decide) rest
      exact readItems_last (readValue_text fuel hclose v hplain.1 (by omega))
  | v, w :: items, hplain, hfuel => by
    rw [textItems_cons_cons] at hfuel ⊢
    rw [List.length_append, List.length_cons] at hfuel
    cases fuel with
    | zero => exact absurd hfuel (Nat.not_lt_zero _)
    | succ fuel =>
      have hcomma : EndsNumber (',' :: (textItems (w :: items) ++ ']' :: rest)) := endsNumber_cons (by decide) _
      have hv := readValue_text fuel hcomma v hplain.1 (by omega)
      have hitems := readItems_text fuel rest w items hplain.2 (by omega)
      rw [List.append_assoc, List.cons_append, readItems_more hv, hitems]

/-- Members read back from their text, up to the end of their list. -/
theorem readMembers_text (fuel : Nat) (rest : List Char) :
    (m : String × Json) → (members : List (String × Json)) → PlainMembers (m :: members) →
      (textMembers (m :: members)).length + 1 < fuel →
      readMembers fuel (textMembers (m :: members) ++ '\x7d' :: rest) = (m :: members, rest)
  | (key, v), [], hplain, hfuel => by
    rw [textMembers] at hfuel ⊢
    rw [List.length_append, List.length_cons] at hfuel
    cases fuel with
    | zero => exact absurd hfuel (Nat.not_lt_zero _)
    | succ fuel =>
      have hclose : EndsNumber ('\x7d' :: rest) := endsNumber_cons (by decide) rest
      have hv := readValue_text fuel hclose v hplain.1 (by omega)
      rw [List.append_assoc, List.cons_append, readMembers_last key hv]
  | (key, v), m :: members, hplain, hfuel => by
    rw [textMembers_cons_cons] at hfuel ⊢
    simp only [List.length_append, List.length_cons] at hfuel
    cases fuel with
    | zero => exact absurd hfuel (Nat.not_lt_zero _)
    | succ fuel =>
      have hcomma : EndsNumber (',' :: (textMembers (m :: members) ++ '\x7d' :: rest)) :=
        endsNumber_cons (by decide) _
      have hv := readValue_text fuel hcomma v hplain.1 (by omega)
      have hmembers := readMembers_text fuel rest m members hplain.2 (by omega)
      rw [List.append_assoc, List.append_assoc, List.cons_append, List.cons_append, readMembers_more key hv, hmembers]

end

/-- A plain value reads back from its text, and the text has nothing else. -/
theorem read_compress {v : Json} (h : v.Plain) : read v.compress = (v, true) := by
  have hread := readValue_text _ endsNumber_nil v h (Nat.lt_succ_self _)
  rw [List.append_nil] at hread
  rw [compress, read, String.toList_ofList]
  simp only [hread]
  rfl

end OrgConsole.Json
