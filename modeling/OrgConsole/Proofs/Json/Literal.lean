import Mathlib.Data.List.DropRight
import OrgConsole.Proofs.Json.ReadBack
/-!
# Integer literals

A text is read as an integer exactly where an integer literal stands: digits without a leading zero,
perhaps after a minus, that neither a point nor an exponent follows. The literal is kept as its value
unless it is minus zero or out of range, so no fraction, no exponent and no other value is ever read as
an integer.
-/

namespace OrgConsole.Json

/-! ## Literals -/

/-- An integer as a text writes it: its sign and its digits. -/
structure IntegerLiteral where
  negative : Bool
  digits : List Char
  isDigit : ∀ c ∈ digits, c.isDigit = true
  nonempty : digits ≠ []
  noLeadingZero : digits.head? = some '0' → digits = ['0']

namespace IntegerLiteral

/-- The characters of a literal. -/
def text (l : IntegerLiteral) : List Char :=
  if l.negative then '-' :: l.digits else l.digits

/-- The value of the digits. -/
def magnitude (l : IntegerLiteral) : Nat :=
  Nat.ofDigitChars 10 l.digits 0

/-- The value of a literal. -/
def value (l : IntegerLiteral) : Int :=
  if l.negative then -(l.magnitude : Int) else l.magnitude

/-- The literal is zero with a minus. -/
def IsNegativeZero (l : IntegerLiteral) : Prop :=
  l.negative = true ∧ l.magnitude = 0

/-- A literal whose value a number keeps as an integer. -/
structure Kept (l : IntegerLiteral) : Prop where
  notNegativeZero : ¬ l.IsNegativeZero
  least_le : Number.least ≤ l.value
  le_greatest : l.value ≤ Number.greatest

/-- The literal stands in a text, between blanks. -/
def StandsIn (l : IntegerLiteral) (text : String) : Prop :=
  ∃ before after : List Char, (∀ c ∈ before, isBlank c = true) ∧ (∀ c ∈ after, isBlank c = true) ∧
    text.toList = before ++ l.text ++ after

/-- A literal begins with its sign or with a digit. -/
theorem text_cons (l : IntegerLiteral) : ∃ c cs, l.text = c :: cs ∧ isBlank c = false := by
  obtain ⟨d, ds, hdigits⟩ := List.exists_cons_of_ne_nil l.nonempty
  have hd : d.isDigit = true := l.isDigit d (hdigits ▸ List.mem_cons_self)
  rw [text]
  cases l.negative with
  | true => exact ⟨'-', l.digits, rfl, by decide⟩
  | false => exact ⟨d, ds, hdigits, isBlank_digit hd⟩

/-! ## Literals that are kept -/

variable {l : IntegerLiteral}

theorem value_of_positive (h : l.negative = false) : l.value = l.magnitude := by
  simp [value, h]

theorem value_of_negative (h : l.negative = true) : l.value = -(l.magnitude : Int) := by
  simp [value, h]

theorem kept_iff_of_positive (h : l.negative = false) : l.Kept ↔ l.magnitude < 0x10000000000000000 := by
  have hvalue := value_of_positive h
  refine ⟨fun hkept => ?_, fun hlt => ⟨by simp [IsNegativeZero, h], ?_, ?_⟩⟩
  · have hle := hvalue ▸ hkept.le_greatest
    unfold Number.greatest at hle
    omega
  all_goals
    simp only [hvalue, Number.least, Number.greatest]
    omega

theorem kept_iff_of_negative (h : l.negative = true) :
    l.Kept ↔ 0 < l.magnitude ∧ Number.least ≤ -(l.magnitude : Int) := by
  have hvalue := value_of_negative h
  refine ⟨fun hkept => ⟨?_, hvalue ▸ hkept.least_le⟩, fun ⟨hpos, hle⟩ => ⟨?_, hvalue ▸ hle, ?_⟩⟩
  · exact Nat.pos_of_ne_zero fun hzero => hkept.notNegativeZero ⟨h, hzero⟩
  · exact fun hzero => Nat.ne_of_gt hpos hzero.2
  · simp only [hvalue, Number.greatest]
    omega

/-- The digits of a literal that is kept fit into the coefficient. -/
theorem Kept.magnitude_lt (h : l.Kept) : l.magnitude < 0x10000000000000000 := by
  cases hsign : l.negative with
  | false => exact (kept_iff_of_positive hsign).mp h
  | true =>
    have hle := ((kept_iff_of_negative hsign).mp h).2
    unfold Number.least at hle
    omega

end IntegerLiteral

/-- The number of a literal is an integer if the literal is kept, and then it is its value. -/
theorem integerOf_eq_integer_iff (l : IntegerLiteral) (n : Int) :
    integerOf l.negative l.digits = .integer n ↔ l.Kept ∧ n = l.value := by
  by_cases hfits : l.magnitude < 0x10000000000000000
  · cases hsign : l.negative with
    | false =>
      have hinteger : integerOf false l.digits = .integer l.magnitude := integerOf_positive hfits
      rw [hinteger, IntegerLiteral.kept_iff_of_positive hsign, IntegerLiteral.value_of_positive hsign]
      simp [hfits, eq_comm]
    | true =>
      have hinteger : integerOf true l.digits = if 0 < l.magnitude && Number.least ≤ -(l.magnitude : Int)
          then .integer (-(l.magnitude : Int)) else .decimal true l.magnitude 0 := integerOf_negative hfits
      rw [hinteger, IntegerLiteral.kept_iff_of_negative hsign, IntegerLiteral.value_of_negative hsign]
      by_cases hkept : 0 < l.magnitude ∧ Number.least ≤ -(l.magnitude : Int)
      · simp [hkept, eq_comm (b := n)]
      · simp [← Bool.decide_and, hkept]
  · have hleft : (absorb 0 0 l.digits).2.2 ≠ 0 := absorb_left_ne_zero (by decide) hfits 0
    have hkept : ¬ l.Kept := fun h => hfits h.magnitude_lt
    simp [integerOf, hleft, hkept]

/-! ## Numbers -/

theorem decimalOf_ne_integer {negative : Bool} {digits fraction : List Char} {e n : Int} :
    decimalOf negative digits fraction e ≠ .integer n := by
  unfold decimalOf
  nofun

/-- Nothing with an exponent is read as an integer. -/
theorem readExponent_ne_integer {negative : Bool} {digits fraction cs rest : List Char} {n : Int} :
    readExponent cs (decimalOf negative digits fraction) ≠ (.number (.integer n), rest) := by
  simp only [readExponent, noDigit]
  intro h
  split at h
  · cases h
  · exact decimalOf_ne_integer (Json.number.inj (congrArg Prod.fst h))

/-- Digits that are read as an integer make up a literal, and no number goes on after it. -/
theorem literal_of_readNumber {negative : Bool} {cs rest : List Char} {n : Int}
    (h : readNumber negative cs = (.number (.integer n), rest)) :
    ∃ l : IntegerLiteral, l.negative = negative ∧ cs = l.digits ++ rest ∧ EndsNumber rest ∧
      integerOf negative l.digits = .integer n := by
  unfold readNumber at h
  split at h
  case h_1 => cases h
  case h_2 => cases h
  case h_3 =>
    -- A fraction, perhaps with an exponent.
    split at h
    · cases h
    · exact absurd h readExponent_ne_integer
    · exact absurd h readExponent_ne_integer
    · exact absurd (Json.number.inj (congrArg Prod.fst h)) decimalOf_ne_integer
  case h_4 => exact absurd h readExponent_ne_integer
  case h_5 => exact absurd h readExponent_ne_integer
  case h_6 hne hzero hpoint hexponent hExponent =>
    -- Only digits: what follows them is none, and the other cases have a point or an exponent there.
    obtain ⟨hn, hrest⟩ := Prod.mk.inj h
    have hdigits : ∀ c ∈ cs.takeWhile Char.isDigit, c.isDigit = true := List.all_eq_true.mp List.all_takeWhile
    refine ⟨⟨negative, cs.takeWhile Char.isDigit, hdigits, hne, fun hhead => ?leading⟩, rfl, ?split, ?ends,
      Json.number.inj hn⟩
    case leading =>
      match htake : cs.takeWhile Char.isDigit with
      | [] => exact absurd htake hne
      | [c] =>
        rw [htake] at hhead
        rw [Option.some.inj hhead]
      | c :: d :: digits =>
        rw [htake] at hhead
        exact (hzero d digits (Option.some.inj hhead ▸ htake)).elim
    case split => exact hrest ▸ List.takeWhile_append_dropWhile.symm
    case ends =>
      intro c hc
      have hnot := List.head?_dropWhile_not Char.isDigit cs
      rw [hrest] at hnot hpoint hexponent hExponent
      cases rest with
      | nil => cases hc
      | cons d rest =>
        cases hc
        refine ⟨by simpa using hnot, ?_⟩
        simp only [List.mem_cons, List.not_mem_nil, or_false]
        rintro (rfl | rfl | rfl)
        · exact hpoint rest rfl
        · exact hexponent rest rfl
        · exact hExponent rest rfl

/-- A number is read as an integer exactly where a literal stands that is kept. -/
theorem readNumber_eq_integer_iff {negative : Bool} {cs rest : List Char} {n : Int} :
    readNumber negative cs = (.number (.integer n), rest) ↔
      ∃ l : IntegerLiteral, l.negative = negative ∧ cs = l.digits ++ rest ∧ EndsNumber rest ∧ l.Kept ∧
        n = l.value := by
  refine ⟨fun h => ?_, ?_⟩
  · obtain ⟨l, rfl, hcs, hends, hinteger⟩ := literal_of_readNumber h
    exact ⟨l, rfl, hcs, hends, (integerOf_eq_integer_iff l n).mp hinteger⟩
  · rintro ⟨l, rfl, rfl, hends, hkept⟩
    rw [readNumber_digits l.negative l.isDigit l.nonempty l.noLeadingZero hends,
      (integerOf_eq_integer_iff l n).mpr hkept]

/-! ## Values -/

theorem readWord_ne_number {v : Json} (h : ∀ n, v ≠ .number n) (word cs : List Char) (n : Number) :
    (readWord v word cs).1 ≠ .number n := by
  induction word generalizing cs with
  | nil => exact h n
  | cons w word ih =>
    cases cs with
    | nil => nofun
    | cons c cs =>
      rw [readWord]
      split
      · exact ih cs
      · nofun

theorem toValue_ne_number (q : Quoted) (n : Number) : q.toValue.1 ≠ .number n := by
  unfold Quoted.toValue
  split <;> nofun

/-- A number begins with a minus or with a digit. -/
theorem readNumber_of_readValue {fuel : Nat} {cs rest : List Char} {n : Number}
    (h : readValue (fuel + 1) cs = (.number n, rest)) :
    (∃ r, skipBlank cs = '-' :: r ∧ readNumber true r = (.number n, rest)) ∨
      readNumber false (skipBlank cs) = (.number n, rest) := by
  unfold readValue at h
  split at h
  case h_1 => cases h
  case h_2 => exact absurd (congrArg Prod.fst h) (readWord_ne_number (by simp) _ _ n)
  case h_3 => exact absurd (congrArg Prod.fst h) (readWord_ne_number (by simp) _ _ n)
  case h_4 => exact absurd (congrArg Prod.fst h) (readWord_ne_number (by simp) _ _ n)
  case h_5 => exact absurd (congrArg Prod.fst h) (toValue_ne_number _ n)
  case h_6 => split at h <;> cases h
  case h_7 => split at h <;> cases h
  case h_8 r hcs => exact .inl ⟨r, hcs, h⟩
  case h_9 c r _ _ _ _ _ _ _ hcs =>
    split at h
    · exact .inr (hcs ▸ h)
    · cases h

/-- Blanks in front of a value are passed over. -/
theorem readValue_skipBlank (fuel : Nat) (cs : List Char) :
    readValue (fuel + 1) (skipBlank cs) = readValue (fuel + 1) cs := by
  have hskip : skipBlank (skipBlank cs) = skipBlank cs := List.dropWhile_idempotent isBlank cs
  unfold readValue
  rw [hskip]

theorem readValue_literal (l : IntegerLiteral) (fuel : Nat) (rest : List Char) :
    readValue (fuel + 1) (l.text ++ rest) = readNumber l.negative (l.digits ++ rest) := by
  cases hsign : l.negative with
  | true =>
    rw [IntegerLiteral.text, if_pos hsign]
    rfl
  | false =>
    obtain ⟨d, ds, hdigits⟩ := List.exists_cons_of_ne_nil l.nonempty
    have hd : d.isDigit = true := l.isDigit d (hdigits ▸ List.mem_cons_self)
    rw [IntegerLiteral.text, if_neg (by simp [hsign]), hdigits]
    exact readValue_digit hd fuel (ds ++ rest)

/-- A value is read as an integer exactly where a literal stands that is kept. -/
theorem readValue_eq_integer_iff {fuel : Nat} {cs rest : List Char} {n : Int} :
    readValue (fuel + 1) cs = (.number (.integer n), rest) ↔
      ∃ l : IntegerLiteral, skipBlank cs = l.text ++ rest ∧ EndsNumber rest ∧ l.Kept ∧ n = l.value := by
  refine ⟨fun h => ?_, ?_⟩
  · rcases readNumber_of_readValue h with ⟨r, hcs, hread⟩ | hread
    · obtain ⟨l, hsign, rfl, hkept⟩ := readNumber_eq_integer_iff.mp hread
      exact ⟨l, by rw [hcs, IntegerLiteral.text, if_pos hsign, List.cons_append], hkept⟩
    · obtain ⟨l, hsign, hcs, hkept⟩ := readNumber_eq_integer_iff.mp hread
      exact ⟨l, by rw [hcs, IntegerLiteral.text, if_neg (by simp [hsign])], hkept⟩
  · rintro ⟨l, hcs, hkept⟩
    rw [← readValue_skipBlank, hcs, readValue_literal]
    exact readNumber_eq_integer_iff.mpr ⟨l, rfl, rfl, hkept⟩

/-! ## Texts -/

/-- A text is a value if the value is read from it and leaves blanks. -/
theorem read_eq_iff {text : String} {v : Json} :
    read text = (v, true) ↔
      ∃ rest, readValue (text.toList.length + 1) text.toList = (v, rest) ∧ ∀ c ∈ rest, isBlank c = true := by
  rcases hread : readValue (text.toList.length + 1) text.toList with ⟨w, rest⟩
  simp only [read, hread, Prod.mk.injEq, List.isEmpty_iff, skipBlank, List.dropWhile_eq_nil_iff]
  refine ⟨?_, ?_⟩
  · rintro ⟨rfl, hrest⟩
    exact ⟨rest, ⟨rfl, rfl⟩, hrest⟩
  · rintro ⟨_, ⟨rfl, rfl⟩, hblank⟩
    exact ⟨rfl, hblank⟩

theorem endsNumber_of_blank {cs : List Char} (h : ∀ c ∈ cs, isBlank c = true) : EndsNumber cs := by
  intro c hc
  have hblank := h c (List.mem_of_mem_head? hc)
  simp only [isBlank, Bool.or_eq_true, decide_eq_true_eq] at hblank
  obtain ((rfl | rfl) | rfl) | rfl := hblank <;> decide

/-- The text in which a literal stands is read as the number of the literal. -/
theorem IntegerLiteral.StandsIn.read_eq {l : IntegerLiteral} {text : String} (h : l.StandsIn text) :
    read text = (.number (integerOf l.negative l.digits), true) := by
  obtain ⟨before, after, hbefore, hafter, htext⟩ := h
  obtain ⟨c, cs, hliteral, hc⟩ := l.text_cons
  have hskip : skipBlank text.toList = l.text ++ after := by
    rw [htext, hliteral, List.append_assoc, skipBlank, List.dropWhile_append_of_pos hbefore]
    exact skipBlank_cons hc (cs ++ after)
  have hread := readNumber_digits l.negative l.isDigit l.nonempty l.noLeadingZero (endsNumber_of_blank hafter)
  exact read_eq_iff.mpr ⟨after, by rw [← readValue_skipBlank, hskip, readValue_literal, hread], hafter⟩

/-- A text is an integer exactly if a literal that is kept stands in it. -/
theorem read_eq_integer_iff {text : String} {n : Int} :
    read text = (.number (.integer n), true) ↔ ∃ l : IntegerLiteral, l.StandsIn text ∧ l.Kept ∧ n = l.value := by
  refine ⟨fun h => ?_, fun ⟨l, hstands, hkept⟩ => ?_⟩
  · obtain ⟨after, hread, hafter⟩ := read_eq_iff.mp h
    obtain ⟨l, htext, -, hkept⟩ := readValue_eq_integer_iff.mp hread
    refine ⟨l, ⟨text.toList.takeWhile isBlank, after, List.all_eq_true.mp List.all_takeWhile, hafter, ?_⟩, hkept⟩
    calc
      text.toList = text.toList.takeWhile isBlank ++ skipBlank text.toList := List.takeWhile_append_dropWhile.symm
      _ = text.toList.takeWhile isBlank ++ l.text ++ after := by rw [htext, List.append_assoc]
  · rw [hstands.read_eq, (integerOf_eq_integer_iff l n).mpr hkept]

end OrgConsole.Json
