import Mathlib.Data.List.Infix
import OrgConsole.Text.CaseFold
/-!
# Lower case of a part of a text

What stands around a part of a text matters to its lower case in one thing only: whether a capital sigma
ends a word. `settlesSigmas` says that a part answers this for each of its sigmas by itself. Such a part has
the same lower case wherever it stands. Any other part has another one in some text, and one more letter,
before it or after it, is enough for that.
-/

namespace OrgConsole.Text

/-! ## Between other texts -/

/-- A capital sigma between the text before it, in reverse, and the text after it is the last letter of a
word. -/
def endsWord (before after : List Char) : Bool :=
  meetsCased before && !meetsCased after

/-- The lower case of a part between the text before it, in reverse, and the text after it. -/
def lowerWithin (before after : List Char) : List Char → List Char
  | [] => []
  | c :: rest => lowerBetween before c (rest ++ after) ++ lowerWithin (c :: before) after rest

theorem lowerBetween_sigma (before after : List Char) :
    lowerBetween before 'Σ' after = [if endsWord before after then 'ς' else 'σ'] := rfl

/-- No other character looks about. -/
theorem lowerBetween_of_ne {c : Char} (h : c ≠ 'Σ') (before before' after after' : List Char) :
    lowerBetween before c after = lowerBetween before' c after' := by
  simp only [lowerBetween, if_neg h]

theorem lowerWithin_append (before after xs ys : List Char) :
    lowerWithin before after (xs ++ ys) =
      lowerWithin before (ys ++ after) xs ++ lowerWithin (xs.reverse ++ before) after ys := by
  induction xs generalizing before with
  | nil => rfl
  | cons c xs ih => simp only [List.cons_append, lowerWithin, ih, List.append_assoc, List.reverse_cons, List.nil_append]

theorem lowerAfter_eq (before cs : List Char) : lowerAfter before cs = lowerWithin before [] cs := by
  induction cs generalizing before with
  | nil => rfl
  | cons c rest ih => rw [lowerAfter, lowerWithin, ih, List.append_nil]

theorem lowercase_eq (cs : List Char) : lowercase cs = lowerWithin [] [] cs :=
  lowerAfter_eq [] cs

theorem lowerWithin_around_sigma (before after xs ys : List Char) :
    lowerWithin before after (xs ++ 'Σ' :: ys) =
      lowerWithin before ('Σ' :: ys ++ after) xs ++
        (if endsWord (xs.reverse ++ before) (ys ++ after) then 'ς' else 'σ') ::
          lowerWithin ('Σ' :: xs.reverse ++ before) after ys := by
  rw [lowerWithin_append, lowerWithin, lowerBetween_sigma]
  rfl

/-! ## What decides -/

theorem meetsCased_cons (c : Char) (cs : List Char) :
    meetsCased (c :: cs) = if caseIgnorable.has c then meetsCased cs else cased.has c := by
  unfold meetsCased
  rw [List.dropWhile_cons]
  cases caseIgnorable.has c <;> rfl

theorem meetsCased_append (xs ys : List Char) :
    meetsCased (xs ++ ys) = if xs.all caseIgnorable.has then meetsCased ys else meetsCased xs := by
  induction xs with
  | nil => rfl
  | cons c xs ih =>
    rw [List.cons_append, meetsCased_cons, meetsCased_cons, ih, List.all_cons]
    cases caseIgnorable.has c <;> simp

theorem meetsCased_of_all {cs : List Char} (h : cs.all caseIgnorable.has = true) : meetsCased cs = false := by
  have happend := meetsCased_append cs []
  rwa [List.append_nil, if_pos h] at happend

/-- Whether a capital sigma ends a word is the same whatever stands around the text before it, in reverse, and
the text after it. -/
def settlesSigma (before after : List Char) : Bool :=
  (!before.all caseIgnorable.has || meetsCased after) && (!after.all caseIgnorable.has || !meetsCased before)

/-- All capital sigmas of a part that follows `before`, in reverse, are settled by the two of them. -/
def settlesAfter (before : List Char) : List Char → Bool
  | [] => true
  | c :: rest => (c != 'Σ' || settlesSigma before rest) && settlesAfter (c :: before) rest

/-- The text settles by itself which of its capital sigmas end a word. -/
def settlesSigmas (cs : List Char) : Bool :=
  settlesAfter [] cs

theorem endsWord_append {before after : List Char} (h : settlesSigma before after = true) (xs ys : List Char) :
    endsWord (before ++ xs) (after ++ ys) = endsWord before after := by
  simp only [settlesSigma, Bool.and_eq_true, Bool.or_eq_true, Bool.not_eq_true'] at h
  obtain ⟨hafter, hbefore⟩ := h
  unfold endsWord
  rw [meetsCased_append, meetsCased_append]
  split <;> split
  -- With nothing of note on either side the sigma is not settled.
  · rename_i hb ha
    rw [meetsCased_of_all ha, hb] at hafter
    simp at hafter
  · rename_i hb ha
    rw [hb] at hafter
    simp [hafter.resolve_left (by simp)]
  · rename_i hb ha
    rw [ha] at hbefore
    simp [hbefore.resolve_left (by simp)]
  · rfl

/-! ## Parts that settle their sigmas -/

theorem lowerWithin_of_settles {before part : List Char} (h : settlesAfter before part = true) (xs ys : List Char) :
    lowerWithin (before ++ xs) ys part = lowerWithin before [] part := by
  induction part generalizing before with
  | nil => rfl
  | cons c rest ih =>
    rw [settlesAfter, Bool.and_eq_true, Bool.or_eq_true, bne_iff_ne] at h
    obtain ⟨hc, hrest⟩ := h
    have hhead : lowerBetween (before ++ xs) c (rest ++ ys) = lowerBetween before c rest := by
      by_cases hsigma : c = 'Σ'
      · subst hsigma
        rw [lowerBetween_sigma, lowerBetween_sigma, endsWord_append (hc.resolve_left (· rfl))]
      · exact lowerBetween_of_ne hsigma _ _ _ _
    rw [lowerWithin, lowerWithin, hhead, List.append_nil, ← List.cons_append, ih hrest]

/-- A part that settles its sigmas has its lower case in every text. -/
theorem lowercase_infix_of_settles {part : List Char} (h : settlesSigmas part = true) (xs ys : List Char) :
    lowercase part <:+: lowercase (xs ++ part ++ ys) := by
  have hpart := lowerWithin_of_settles h (xs.reverse ++ []) ys
  rw [List.nil_append] at hpart
  rw [lowercase_eq, lowercase_eq, lowerWithin_append, lowerWithin_append, List.append_nil, hpart]
  exact List.infix_append _ _ _

/-! ## Parts that do not -/

/-- Every word that ends at a sigma between `a` and `b` ends there between `a'` and `b'` too. -/
def EndsMore (a b a' b' : List Char) : Prop :=
  ∀ xs ys, endsWord (xs ++ a) (ys ++ b) = true → endsWord (xs ++ a') (ys ++ b') = true

variable {a b a' b' : List Char}

theorem EndsMore.append (h : EndsMore a b a' b') (zs : List Char) : EndsMore a (zs ++ b) a' (zs ++ b') := by
  intro xs ys hends
  rw [← List.append_assoc] at hends ⊢
  exact h xs (ys ++ zs) hends

/-- Where more sigmas end words there are fewer `σ` and more `ς`. -/
theorem EndsMore.count_le (h : EndsMore a b a' b') (before part : List Char) :
    (lowerWithin (before ++ a') b' part).count 'σ' ≤ (lowerWithin (before ++ a) b part).count 'σ' ∧
      (lowerWithin (before ++ a) b part).count 'ς' ≤ (lowerWithin (before ++ a') b' part).count 'ς' := by
  induction part generalizing before with
  | nil => exact ⟨Nat.le_refl _, Nat.le_refl _⟩
  | cons c rest ih =>
    obtain ⟨hmid, hend⟩ := ih (c :: before)
    rw [List.cons_append, List.cons_append] at hmid hend
    simp only [lowerWithin, List.count_append]
    by_cases hsigma : c = 'Σ'
    · subst hsigma
      have hform := h before rest
      rw [lowerBetween_sigma, lowerBetween_sigma]
      cases hends : endsWord (before ++ a) (rest ++ b) with
      | false =>
        cases endsWord (before ++ a') (rest ++ b') <;> simp <;> omega
      | true =>
        rw [hform hends]
        simp only [if_true]
        omega
    · rw [lowerBetween_of_ne hsigma (before ++ a') (before ++ a) (rest ++ b') (rest ++ b)]
      omega

/-- One sigma more at the end of a word is one `σ` less and one `ς` more at least. -/
theorem EndsMore.count_lt (h : EndsMore a b a' b') {before after : List Char}
    (hinside : endsWord (before.reverse ++ a) (after ++ b) = false)
    (hends : endsWord (before.reverse ++ a') (after ++ b') = true) :
    (lowerWithin a' b' (before ++ 'Σ' :: after)).count 'σ' < (lowerWithin a b (before ++ 'Σ' :: after)).count 'σ' ∧
      (lowerWithin a b (before ++ 'Σ' :: after)).count 'ς' < (lowerWithin a' b' (before ++ 'Σ' :: after)).count 'ς' := by
  obtain ⟨hmid₁, hend₁⟩ := (h.append ('Σ' :: after)).count_le [] before
  obtain ⟨hmid₂, hend₂⟩ := h.count_le ('Σ' :: before.reverse) after
  rw [List.nil_append, List.nil_append] at hmid₁ hend₁
  simp only [lowerWithin_around_sigma, hinside, hends, List.count_append, Bool.false_eq_true, if_false, if_true]
  rw [List.count_cons_self, List.count_cons_self, List.count_cons_of_ne (by decide), List.count_cons_of_ne (by decide)]
  omega

theorem exists_unsettled {before part : List Char} (h : settlesAfter before part = false) :
    ∃ xs ys, part = xs ++ 'Σ' :: ys ∧ settlesSigma (xs.reverse ++ before) ys = false := by
  induction part generalizing before with
  | nil => cases h
  | cons c rest ih =>
    rw [settlesAfter, Bool.and_eq_false_iff] at h
    rcases h with hc | hrest
    · rw [Bool.or_eq_false_iff, bne_eq_false_iff_eq] at hc
      obtain ⟨rfl, hc⟩ := hc
      exact ⟨[], rest, rfl, hc⟩
    · obtain ⟨xs, ys, rfl, hsigma⟩ := ih hrest
      exact ⟨c :: xs, ys, rfl, by simpa using hsigma⟩

theorem lowerBetween_letter (before after : List Char) : lowerBetween before 'a' after = ['a'] := by
  rw [lowerBetween_of_ne (by decide) before [] after []]
  decide

theorem lowercase_letter_before (part : List Char) : lowercase ('a' :: part) = 'a' :: lowerWithin ['a'] [] part := by
  rw [lowercase_eq, lowerWithin, lowerBetween_letter]
  rfl

theorem lowercase_letter_behind (part : List Char) : lowercase (part ++ ['a']) = lowerWithin [] ['a'] part ++ ['a'] := by
  rw [lowercase_eq, lowerWithin_append, lowerWithin, lowerBetween_letter]
  rfl

theorem meetsCased_letter : meetsCased ['a'] = true := by decide +kernel

/-- A letter in front ends words that began in front. -/
theorem endsMore_letter_before : EndsMore [] [] ['a'] [] := by
  intro xs ys h
  rw [List.append_nil, endsWord, Bool.and_eq_true] at h
  rw [endsWord, Bool.and_eq_true, meetsCased_append, meetsCased_letter, h.1]
  exact ⟨ite_self _, h.2⟩

/-- Without the letter behind them more words end. -/
theorem endsMore_without_letter_behind : EndsMore [] ['a'] [] [] := by
  intro xs ys h
  rw [endsWord, Bool.and_eq_true, Bool.not_eq_true'] at h ⊢
  refine ⟨h.1, ?_⟩
  obtain ⟨-, hnone⟩ := h
  rw [meetsCased_append] at hnone
  split at hnone
  · rw [meetsCased_letter] at hnone
    cases hnone
  · rwa [List.append_nil]

/-- A part that leaves a sigma open has another lower case in some text. -/
theorem exists_lowercase_not_infix {part : List Char} (h : settlesSigmas part = false) :
    ∃ xs ys, ¬ lowercase part <:+: lowercase (xs ++ part ++ ys) := by
  obtain ⟨before, after, rfl, hopen⟩ := exists_unsettled h
  simp only [List.append_nil, settlesSigma, Bool.and_eq_false_iff, Bool.or_eq_false_iff, Bool.not_eq_false'] at hopen
  rcases hopen with ⟨hbefore, hafter⟩ | ⟨hafter, hbefore⟩
  · -- All that shows whether a word is going on at the sigma stands in front of the part.
    have hinside : endsWord (before.reverse ++ []) (after ++ []) = false := by
      rw [List.append_nil, endsWord, meetsCased_of_all hbefore, Bool.false_and]
    have hends : endsWord (before.reverse ++ ['a']) (after ++ []) = true := by
      rw [endsWord, meetsCased_append, if_pos hbefore, meetsCased_letter, List.append_nil, hafter]
      rfl
    refine ⟨['a'], [], fun hinfix => ?_⟩
    have hcount := hinfix.count_le 'σ'
    have hlt := (endsMore_letter_before.count_lt hinside hends).1
    rw [List.append_nil, List.singleton_append, lowercase_letter_before, lowercase_eq,
      List.count_cons_of_ne (by decide)] at hcount
    omega
  · -- All that shows whether the word goes on after the sigma stands behind the part.
    have hends : endsWord (before.reverse ++ []) (after ++ []) = true := by
      rw [List.append_nil, List.append_nil, endsWord, hbefore, meetsCased_of_all hafter]
      rfl
    have hinside : endsWord (before.reverse ++ []) (after ++ ['a']) = false := by
      rw [endsWord, meetsCased_append after, if_pos hafter, meetsCased_letter, Bool.not_true, Bool.and_false]
    refine ⟨[], ['a'], fun hinfix => ?_⟩
    have hcount := hinfix.count_le 'ς'
    have hlt := (endsMore_without_letter_behind.count_lt hinside hends).2
    rw [List.nil_append, lowercase_letter_behind, lowercase_eq, List.count_append,
      List.count_cons_of_ne (by decide), List.count_nil] at hcount
    omega

example : settlesSigmas "ΣΟΦΟΣ ΑΝΗΡ".toList = true ∧ settlesSigmas "ΣΟΦΟΣ".toList = false := by decide +kernel

end OrgConsole.Text
