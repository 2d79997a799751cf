import Mathlib.Data.List.TakeWhile
/-!
# Parts with a separator between them

Where parts of a text stand one after the other with a separator between them, the text says what they are as long as
no part has the separator in it.
-/

namespace OrgConsole.Text

variable {separator : Char} {part part' rest rest' : List Char}

/-- Nothing, or something that the separator begins. -/
def IsSeparated (separator : Char) (rest : List Char) : Prop :=
  ∀ c ∈ rest.head?, c = separator

/-- A part is what comes before the next separator. -/
theorem takeWhile_part (hpart : separator ∉ part) (hrest : IsSeparated separator rest) :
    (part ++ rest).takeWhile (· ≠ separator) = part := by
  have hall : ∀ c ∈ part, decide (c ≠ separator) = true :=
    fun c hc => decide_eq_true (ne_of_mem_of_not_mem hc hpart)
  rw [List.takeWhile_append_of_pos hall]
  cases rest with
  | nil => simp
  | cons c rest => simp [hrest c rfl]

theorem part_inj (hpart : separator ∉ part) (hpart' : separator ∉ part') (hrest : IsSeparated separator rest)
    (hrest' : IsSeparated separator rest') (h : part ++ rest = part' ++ rest') : part = part' ∧ rest = rest' := by
  obtain rfl : part = part' := by rw [← takeWhile_part hpart hrest, h, takeWhile_part hpart' hrest']
  exact ⟨rfl, List.append_cancel_left h⟩

end OrgConsole.Text
