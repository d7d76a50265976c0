import Beans.Value.Basic
import Mathlib.Data.List.Nodup
/-!
# Cells of beans

Putting values into several cells, one after the other, leaves the other cells alone. In cells that a
bean has, the last value counts, and the order of different cells does not matter.
-/

set_option autoImplicit false

namespace Beans.Bean

variable {b : Bean} {i j : Nat} {v w : Option Value}

/-! ### One cell -/

theorem lt_length_of_cell? (h : b.cell? i ≠ none) : i < b.cells.length := by
  by_contra hout
  apply h
  rw [cell?, List.getElem?_eq_none (Nat.le_of_not_lt hout)]
  rfl

theorem setCell_eq_set (h : i < b.cells.length) :
    b.setCell i v = { b with cells := b.cells.set i v } := by
  have hnothing : i + 1 - b.cells.length = 0 := by omega
  rw [setCell, hnothing, List.replicate_zero, List.append_nil]

theorem length_setCell (h : i < b.cells.length) :
    (b.setCell i v).cells.length = b.cells.length := by
  rw [setCell_eq_set h, List.length_set]

theorem setCell_setCell (h : i < b.cells.length) : (b.setCell i v).setCell i w = b.setCell i w := by
  have h' : i < (b.setCell i v).cells.length := by rwa [length_setCell h]
  rw [setCell_eq_set h', setCell_eq_set h, setCell_eq_set h]
  simp only [List.set_set]

theorem setCell_comm (hi : i < b.cells.length) (hj : j < b.cells.length) (h : i ≠ j) :
    (b.setCell i v).setCell j w = (b.setCell j w).setCell i v := by
  have hi' : i < (b.setCell j w).cells.length := by rwa [length_setCell hj]
  have hj' : j < (b.setCell i v).cells.length := by rwa [length_setCell hi]
  rw [setCell_eq_set hj', setCell_eq_set hi', setCell_eq_set hi, setCell_eq_set hj]
  simp only [List.set_comm _ _ h]

theorem setCell_cell? (h : b.cell? i ≠ none) : b.setCell i (b.cell? i) = b := by
  have hi := lt_length_of_cell? h
  rw [setCell_eq_set hi, cell?, List.getElem?_eq_getElem hi, Option.join_some,
    List.set_getElem_self]

/-! ### Several cells -/

/-- Puts values into cells, in order. -/
def setCells (b : Bean) (l : List (Nat × Option Value)) : Bean :=
  l.foldl (fun b x => b.setCell x.1 x.2) b

theorem setCells_cons (b : Bean) (x : Nat × Option Value) (l : List (Nat × Option Value)) :
    b.setCells (x :: l) = (b.setCell x.1 x.2).setCells l := rfl

theorem type_setCells (b : Bean) (l : List (Nat × Option Value)) : (b.setCells l).type = b.type := by
  induction l generalizing b with
  | nil => rfl
  | cons x l ih => rw [setCells_cons, ih, type_setCell]

theorem cell?_setCells_of_not_mem {l : List (Nat × Option Value)} (h : i ∉ l.map Prod.fst) :
    (b.setCells l).cell? i = b.cell? i := by
  induction l generalizing b with
  | nil => rfl
  | cons x l ih =>
    rw [List.map_cons, List.mem_cons, not_or] at h
    obtain ⟨hne, hrest⟩ := h
    rw [setCells_cons, ih hrest, cell?_setCell, if_neg (Ne.symm hne)]

theorem cell?_setCells_of_mem {l : List (Nat × Option Value)} (hl : (l.map Prod.fst).Nodup)
    (h : (i, v) ∈ l) : (b.setCells l).cell? i = v := by
  induction l generalizing b with
  | nil => cases h
  | cons x l ih =>
    obtain ⟨hnew, hrest⟩ := List.nodup_cons.mp hl
    rw [setCells_cons]
    rcases List.mem_cons.mp h with rfl | h
    · rw [cell?_setCells_of_not_mem hnew, cell?_setCell, if_pos rfl]
    · exact ih hrest h

end Beans.Bean
