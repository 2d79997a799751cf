import Mathlib.Tactic.IntervalCases
import OrgConsole.Json.Printer
import OrgConsole.Json.Reader
/-!
# Strings and integers read back

An escaped character reads back as the character, so a quoted text reads back as the text, whatever
follows the closing mark. The digits of an integer of at most 64 bits read back as the integer, if what
follows them cannot belong to a number.
-/

namespace OrgConsole.Json

/-! ## Strings -/

theorem unit_of_lt (t : Taken) {n : Nat} (h : n < 0xD800) : t.unit n = (.text, t.push (Char.ofNat n)) := by
  have hlow : isLowSurrogate n = false := by simp [isLowSurrogate]; omega
  have hhigh : isHighSurrogate n = false := by simp [isHighSurrogate]; omega
  simp [Taken.unit, hlow, hhigh]

/-- A digit of an escape by number, the last of them after three others. -/
theorem readQuoted_hexDigit {d : Nat} (h : d < 16) (count value : Nat) (t : Taken) (rest : List Char) :
    readQuoted (.hex none count value) t (hexDigit d :: rest) =
      if count < 3 then readQuoted (.hex none (count + 1) (value * 16 + d)) t rest
      else readQuoted (t.unit (value * 16 + d)).1 (t.unit (value * 16 + d)).2 rest := by
  interval_cases d <;> rfl

/-- Four digits of an escape by number, of which the last two can be other than zero. -/
theorem readQuoted_hex (t : Taken) {n : Nat} (h : n < 0x20) (rest : List Char) :
    readQuoted (.hex none 0 0) t (hexDigit 0 :: hexDigit 0 :: hexDigit (n / 16) :: hexDigit (n % 16) :: rest) =
      readQuoted .text (t.push (Char.ofNat n)) rest := by
  have hfirst : n / 16 < 16 := by omega
  have hsecond : n % 16 < 16 := by omega
  have hunit := unit_of_lt t (n := n) (by omega)
  have hn : n / 16 * 16 + n % 16 = n := Nat.div_add_mod' n 16
  simp [readQuoted_hexDigit, hfirst, hsecond, hn, hunit]

/-- A character that is not escaped, and neither the closing mark nor a backslash. -/
theorem readQuoted_plain {c : Char} (hquote : c ≠ '"') (hbackslash : c ≠ '\\') (hcontrol : ¬ c.toNat < 0x20)
    (t : Taken) (rest : List Char) : readQuoted .text t (c :: rest) = readQuoted .text (t.push c) rest :=
  (if_neg hquote).trans ((if_neg hbackslash).trans (if_neg hcontrol))

theorem readQuoted_escape (c : Char) (t : Taken) (rest : List Char) :
    readQuoted .text t (escape c ++ rest) = readQuoted .text (t.push c) rest := by
  unfold escape
  iterate 7
    split
    · subst c
      rfl
  split
  · rename_i hcontrol
    have hhex := readQuoted_hex t hcontrol rest
    rw [Char.ofNat_toNat] at hhex
    rw [← hhex]
    rfl
  · -- All other characters stand for themselves.
    rename_i hquote hbackslash _ _ _ _ _ hcontrol
    exact readQuoted_plain hquote hbackslash hcontrol t rest

theorem readQuoted_flatMap_escape (cs : List Char) (t : Taken) (rest : List Char) :
    readQuoted .text t (cs.flatMap escape ++ '"' :: rest) = .closed (cs.reverse ++ t.reversed) t.paired rest := by
  induction cs generalizing t with
  | nil => rfl
  | cons c cs ih =>
    rw [List.flatMap_cons, List.append_assoc, readQuoted_escape, ih, Taken.push, List.reverse_cons,
      List.append_assoc]
    rfl

/-- What stands between the marks of a quoted text reads back as the text. -/
theorem readString_quote (s : String) (rest : List Char) :
    readString (s.toList.flatMap escape ++ '"' :: rest) = .closed s.toList.reverse true rest := by
  rw [readString, readQuoted_flatMap_escape, List.append_nil]

/-! ## Integers -/

theorem le_ofDigitChars (digits : List Char) (c : Nat) : c ≤ Nat.ofDigitChars 10 digits c := by
  induction digits generalizing c with
  | nil => exact Nat.le_refl c
  | cons d digits ih =>
    have h := ih (10 * c + (d.toNat - '0'.toNat))
    rw [Nat.ofDigitChars_cons]
    omega

theorem absorb_cons (c taken : Nat) (d : Char) (rest : List Char) :
    absorb c taken (d :: rest) =
      if 10 * c + (d.toNat - '0'.toNat) < 0x10000000000000000 then
        absorb (10 * c + (d.toNat - '0'.toNat)) (taken + 1) rest
      else (c, taken, rest.length + 1) := by
  rw [Nat.mul_comm 10 c]
  rfl

/-- A coefficient that fits is taken in whole. -/
theorem absorb_eq {digits : List Char} {c : Nat} (h : Nat.ofDigitChars 10 digits c < 0x10000000000000000)
    (taken : Nat) :
    absorb c taken digits = (Nat.ofDigitChars 10 digits c, taken + digits.length, 0) := by
  induction digits generalizing c taken with
  | nil => rfl
  | cons d digits ih =>
    rw [Nat.ofDigitChars_cons] at h ⊢
    have hfits := Nat.lt_of_le_of_lt (le_ofDigitChars digits _) h
    rw [absorb_cons, if_pos hfits, ih h, List.length_cons, Nat.add_right_comm, Nat.add_assoc]

/-- One that does not fit is not. -/
theorem absorb_left_ne_zero {digits : List Char} {c : Nat} (hc : c < 0x10000000000000000)
    (h : ¬ Nat.ofDigitChars 10 digits c < 0x10000000000000000) (taken : Nat) : (absorb c taken digits).2.2 ≠ 0 := by
  induction digits generalizing c taken with
  | nil => exact absurd hc h
  | cons d digits ih =>
    rw [Nat.ofDigitChars_cons] at h
    rw [absorb_cons]
    split
    · rename_i hfits
      exact ih hfits h (taken + 1)
    · exact Nat.succ_ne_zero _

/-- No digits but those of zero begin with a zero. -/
theorem head?_toDigits_ne {n : Nat} (h : 0 < n) : (Nat.toDigits 10 n).head? ≠ some '0' := by
  induction n using Nat.strongRecOn with
  | ind n ih =>
    by_cases hlt : n < 10
    · have hdigit : ∀ n < 10, 0 < n → [n.digitChar].head? ≠ some '0' := by decide
      rw [Nat.toDigits_of_lt_base hlt]
      exact hdigit n hlt h
    · have hfront := ih (n / 10) (by omega) (by omega)
      rw [Nat.toDigits_of_base_le (by decide) (by omega)]
      cases hdigits : Nat.toDigits 10 (n / 10) with
      | nil => exact absurd hdigits (List.ne_nil_of_length_pos Nat.length_toDigits_pos)
      | cons d digits =>
        rw [hdigits] at hfront
        exact hfront

/-- Only the digits of zero begin with a zero. -/
theorem toDigits_of_head? {n : Nat} (h : (Nat.toDigits 10 n).head? = some '0') : Nat.toDigits 10 n = ['0'] := by
  cases n with
  | zero => rfl
  | succ n => exact absurd h (head?_toDigits_ne n.succ_pos)

/-- No number goes on here. -/
def EndsNumber (rest : List Char) : Prop :=
  ∀ c ∈ rest.head?, c.isDigit = false ∧ c ∉ ['.', 'e', 'E']

theorem endsNumber_nil : EndsNumber [] := nofun

theorem endsNumber_cons {c : Char} (h : c ∈ [',', ']', '\x7d']) (rest : List Char) : EndsNumber (c :: rest) := by
  rintro _ ⟨rfl⟩
  simp only [List.mem_cons, List.not_mem_nil, or_false] at h
  obtain rfl | rfl | rfl := h <;> decide

theorem takeWhile_isDigit {digits rest : List Char} (hdigits : ∀ c ∈ digits, c.isDigit = true) (hrest : EndsNumber rest) :
    (digits ++ rest).takeWhile Char.isDigit = digits ∧ (digits ++ rest).dropWhile Char.isDigit = rest := by
  rw [List.takeWhile_append_of_pos hdigits, List.dropWhile_append_of_pos hdigits]
  cases rest with
  | nil => exact ⟨List.append_nil digits, rfl⟩
  | cons c rest =>
    have hc := (hrest c rfl).1
    rw [List.takeWhile_cons_of_neg (by simp [hc]), List.dropWhile_cons_of_neg (by simp [hc])]
    exact ⟨List.append_nil digits, rfl⟩

/-- Digits without a leading zero are a number where no number goes on. -/
theorem readNumber_digits (negative : Bool) {digits rest : List Char} (hdigits : ∀ c ∈ digits, c.isDigit = true)
    (hne : digits ≠ []) (hzero : digits.head? = some '0' → digits = ['0']) (hrest : EndsNumber rest) :
    readNumber negative (digits ++ rest) = (.number (integerOf negative digits), rest) := by
  obtain ⟨htake, hdrop⟩ := takeWhile_isDigit hdigits hrest
  have hends : ∀ c cs, rest = c :: cs → c ∉ ['.', 'e', 'E'] := fun c cs h => (hrest c (h ▸ rfl)).2
  unfold readNumber
  rw [htake, hdrop]
  -- A zero that more digits follow, a point and an exponent have cases of their own, and none of them is met.
  split <;> simp_all

theorem readNumber_toDigits (negative : Bool) (n : Nat) {rest : List Char} (hrest : EndsNumber rest) :
    readNumber negative (Nat.toDigits 10 n ++ rest) = (.number (integerOf negative (Nat.toDigits 10 n)), rest) := by
  have hdigits : ∀ c ∈ Nat.toDigits 10 n, c.isDigit = true := fun c =>
    Nat.isDigit_of_mem_toDigits (by decide) (by decide)
  exact readNumber_digits negative hdigits (List.ne_nil_of_length_pos Nat.length_toDigits_pos) toDigits_of_head? hrest

theorem integerOf_positive {digits : List Char} (h : Nat.ofDigitChars 10 digits 0 < 0x10000000000000000) :
    integerOf false digits = .integer (Nat.ofDigitChars 10 digits 0) := by
  rw [integerOf, absorb_eq h]
  rfl

theorem integerOf_negative {digits : List Char} (h : Nat.ofDigitChars 10 digits 0 < 0x10000000000000000) :
    integerOf true digits =
      if 0 < Nat.ofDigitChars 10 digits 0 && Number.least ≤ -(Nat.ofDigitChars 10 digits 0 : Int) then
        .integer (-(Nat.ofDigitChars 10 digits 0 : Int))
      else .decimal true (Nat.ofDigitChars 10 digits 0) 0 := by
  rw [integerOf, absorb_eq h]
  rfl

theorem integerOf_toDigits {n : Nat} (h : n < 0x10000000000000000) : integerOf false (Nat.toDigits 10 n) = .integer n := by
  have hn : Nat.ofDigitChars 10 (Nat.toDigits 10 n) 0 = n := Nat.ofDigitChars_ten_toDigits
  rw [integerOf_positive (by rwa [hn]), hn]

theorem integerOf_toDigits_neg {n : Nat} (hpos : 0 < n) (h : Number.least ≤ -(n : Int)) :
    integerOf true (Nat.toDigits 10 n) = .integer (-(n : Int)) := by
  have hn : Nat.ofDigitChars 10 (Nat.toDigits 10 n) 0 = n := Nat.ofDigitChars_ten_toDigits
  have hlt : n < 0x10000000000000000 := by
    unfold Number.least at h
    omega
  rw [integerOf_negative (by rwa [hn]), hn]
  simp [hpos, h]

end OrgConsole.Json
