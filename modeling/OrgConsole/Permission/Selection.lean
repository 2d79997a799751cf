import Std.Data.TreeMap
import OrgConsole.Permission.Template
/-!
# Selections

A selection holds the state of checkboxes by permission id. An id that it does not hold is unchecked.
-/

namespace OrgConsole

/-- The state of checkboxes by permission id. -/
structure Selection where
  marks : Std.TreeMap String Bool compare

namespace Selection

def empty : Selection := ⟨∅⟩

def isChecked (s : Selection) (id : String) : Bool :=
  s.marks.getD id false

def set (s : Selection) (id : String) (checked : Bool) : Selection :=
  ⟨s.marks.insert id checked⟩

/-- The selection with one checkbox flipped. -/
def toggle (s : Selection) (id : String) : Selection :=
  s.set id (!s.isChecked id)

/-- A selection from pairs; of several with one id the last counts. -/
def ofList (pairs : List (String × Bool)) : Selection :=
  pairs.foldl (fun s p => s.set p.1 p.2) empty

/-- The ids that a selection holds, in order, with their states. -/
def toList (s : Selection) : List (String × Bool) :=
  s.marks.toList

theorem isChecked_set (s : Selection) (id other : String) (checked : Bool) :
    (s.set id checked).isChecked other = if id = other then checked else s.isChecked other := by
  simp only [isChecked, set, Std.TreeMap.getD_insert, Std.compare_eq_iff_eq]

end Selection

end OrgConsole
