import Mathlib.Data.List.DropRight
import Mathlib.Data.List.TakeWhile
import OrgConsole.Text.Basic
/-!
# Trimming

Trimming loses white space only. So a text is blank exactly when trimming leaves nothing of it, and
what trimming leaves of any other text is not blank.
-/

namespace OrgConsole.Text

theorem isBlank_iff {s : String} : isBlank s = true ↔ ∀ c ∈ s.toList, isSpace c = true :=
  List.all_eq_true

theorem mem_dropWhile_of_not {p : Char → Bool} {c : Char} (hc : p c = false) {cs : List Char} (h : c ∈ cs) :
    c ∈ cs.dropWhile p := by
  rw [← List.takeWhile_append_dropWhile (p := p) (l := cs), List.mem_append] at h
  rcases h with h | h
  · have := List.mem_takeWhile_imp h
    rw [hc] at this
    cases this
  · exact h

theorem mem_trim {c : Char} (hc : isSpace c = false) {cs : List Char} (h : c ∈ cs) : c ∈ trim cs := by
  unfold trim trimRight trimLeft
  rw [List.mem_reverse]
  exact mem_dropWhile_of_not hc (List.mem_reverse.2 (mem_dropWhile_of_not hc h))

/-- Trimming leaves nothing exactly of white space. -/
theorem trim_eq_nil_iff {cs : List Char} : trim cs = [] ↔ cs.all isSpace = true := by
  constructor
  · intro h
    rw [List.all_eq_true]
    intro c hc
    by_contra hs
    have := mem_trim (Bool.eq_false_iff.2 hs) hc
    rw [h] at this
    cases this
  · intro h
    rw [List.all_eq_true] at h
    have hdrop : cs.dropWhile isSpace = [] := List.dropWhile_eq_nil_iff.2 h
    simp [trim, trimLeft, trimRight, hdrop]

theorem trim_trim_eq_nil_iff {cs : List Char} : trim (trim cs) = [] ↔ trim cs = [] := by
  refine ⟨fun h => ?_, fun h => by rw [h]; rfl⟩
  rw [trim_eq_nil_iff, List.all_eq_true] at h
  rw [trim_eq_nil_iff, List.all_eq_true]
  intro c hc
  by_contra hs
  exact hs (h c (mem_trim (Bool.eq_false_iff.2 hs) hc))

/-! ## White space at the end -/

theorem trimRight_append_space (cs : List Char) :
    ∃ space, trimRight cs ++ space = cs ∧ ∀ c ∈ space, isSpace c = true :=
  ⟨cs.rtakeWhile isSpace, List.rdropWhile_append_rtakeWhile, fun _ hc => List.mem_rtakeWhile_imp hc⟩

theorem trimRight_eq_nil_iff {cs : List Char} : trimRight cs = [] ↔ ∀ c ∈ cs, isSpace c = true :=
  List.rdropWhile_eq_nil_iff

theorem trimRight_trimRight (cs : List Char) : trimRight (trimRight cs) = trimRight cs :=
  List.rdropWhile_idempotent isSpace cs

theorem isSpace_of_getLast?_trimRight {cs : List Char} {c : Char} (hc : c ∈ (trimRight cs).getLast?) :
    isSpace c = false := by
  obtain ⟨hne, rfl⟩ := List.mem_getLast?_eq_getLast hc
  exact Bool.eq_false_iff.2 (List.rdropWhile_last_not isSpace cs hne)

/-- What is trimmed off the end of a text stays within its last part, unless that is blank. -/
theorem trimRight_append (cs ds : List Char) :
    trimRight (cs ++ ds) = if trimRight ds = [] then trimRight cs else cs ++ trimRight ds := by
  unfold trimRight
  rw [List.reverse_append, List.dropWhile_append]
  cases hds : ds.reverse.dropWhile isSpace <;> simp

theorem nonBlank?_eq (s : String) : nonBlank? s = if trim s.toList = [] then none else some s := by
  unfold nonBlank? isBlank
  simp only [trim_eq_nil_iff]

end OrgConsole.Text
