import Beans.Value.Basic
/-!
# Parts of values

A value is made of smaller ones: the content of an `Option`, the elements of a list or a set, the keys and
values of a map, the cells of a bean. What holds of a value if it holds of its parts holds of every value,
and what is asked of a value may be asked of everything in it.
-/

set_option autoImplicit false

namespace Beans.Value

def parts : Value → List Value
  | scalar _ | leaf _ _ => []
  | option _ content => content.toList
  | list _ items | set _ _ items => items
  | map _ _ _ entries => entries.flatMap fun e => [e.1, e.2]
  | bean _ cells => cells.filterMap id

variable {v w : Value}

theorem mem_parts_option {t : Ty} {content : Option Value} :
    w ∈ (option t content).parts ↔ content = some w := by
  simp [parts, Option.mem_toList]

theorem key_mem_parts {storage : Storage} {k t : Ty} {entries : List (Value × Value)}
    {e : Value × Value} (he : e ∈ entries) : e.1 ∈ (map storage k t entries).parts :=
  List.mem_flatMap.mpr ⟨e, he, by simp⟩

theorem mapped_mem_parts {storage : Storage} {k t : Ty} {entries : List (Value × Value)}
    {e : Value × Value} (he : e ∈ entries) : e.2 ∈ (map storage k t entries).parts :=
  List.mem_flatMap.mpr ⟨e, he, by simp⟩

theorem mem_parts_map {storage : Storage} {k t : Ty} {entries : List (Value × Value)} :
    w ∈ (map storage k t entries).parts ↔ ∃ e ∈ entries, w = e.1 ∨ w = e.2 := by
  simp [parts]

theorem mem_parts_bean {b : BeanType} {cells : List (Option Value)} :
    w ∈ (bean b cells).parts ↔ some w ∈ cells := by
  simp [parts]

theorem sizeOf_lt_of_mem_parts (h : w ∈ v.parts) : sizeOf w < sizeOf v := by
  cases v with
  | scalar s => simp [parts] at h
  | leaf l c => simp [parts] at h
  | option t content =>
    rw [mem_parts_option] at h
    subst h
    simp
    omega
  | list t items =>
    have hlt : sizeOf w < sizeOf items := List.sizeOf_lt_of_mem h
    simp
    omega
  | set storage t items =>
    have hlt : sizeOf w < sizeOf items := List.sizeOf_lt_of_mem h
    simp
    omega
  | map storage k t entries =>
    obtain ⟨e, he, hw⟩ := mem_parts_map.mp h
    have hlt := List.sizeOf_lt_of_mem he
    have hpair : sizeOf e = 1 + sizeOf e.1 + sizeOf e.2 := by
      cases e
      simp
    rcases hw with rfl | rfl
    · simp
      omega
    · simp
      omega
  | bean b cells =>
    have hlt := List.sizeOf_lt_of_mem (mem_parts_bean.mp h)
    simp at hlt ⊢
    omega

/-- What holds of a value wherever it holds of its parts holds of every value. -/
theorem induction_parts {P : Value → Prop} (step : ∀ v, (∀ w ∈ v.parts, P w) → P v) (v : Value) :
    P v :=
  step v fun w h =>
    have := sizeOf_lt_of_mem_parts h
    induction_parts step w
termination_by sizeOf v

/-- A property that the value and everything in it has. -/
inductive Throughout (P : Value → Prop) : Value → Prop where
  | intro {v : Value} (here : P v) (parts : ∀ w ∈ v.parts, Throughout P w) : Throughout P v

namespace Throughout

variable {P : Value → Prop}

theorem here (h : v.Throughout P) : P v := by
  cases h with
  | intro here _ => exact here

theorem part (h : v.Throughout P) (hw : w ∈ v.parts) : w.Throughout P := by
  cases h with
  | intro _ parts => exact parts w hw

end Throughout

/-! ### Parts of well-typed values -/

theorem AllWellTyped.mem {t : Ty} {items : List Value} (h : AllWellTyped t items) (hw : w ∈ items) :
    w.type = t ∧ w.WellTyped := by
  induction items with
  | nil => cases hw
  | cons v rest ih =>
    obtain ⟨htype, hv, hrest⟩ := h
    rcases List.mem_cons.mp hw with rfl | hw
    · exact ⟨htype, hv⟩
    · exact ih hrest hw

theorem EntriesWellTyped.mem {k t : Ty} {entries : List (Value × Value)} {e : Value × Value}
    (h : EntriesWellTyped k t entries) (he : e ∈ entries) :
    (e.1.type = k ∧ e.1.WellTyped) ∧ e.2.type = t ∧ e.2.WellTyped := by
  induction entries with
  | nil => cases he
  | cons f rest ih =>
    obtain ⟨hkey, hvalue, hrest⟩ := h
    rcases List.mem_cons.mp he with rfl | he
    · exact ⟨hkey, hvalue⟩
    · exact ih hrest he

theorem CellsWellTyped.mem {cells : List (Option Value)} (h : CellsWellTyped cells)
    (hw : some w ∈ cells) : w.WellTyped := by
  induction cells with
  | nil => cases hw
  | cons c rest ih =>
    obtain ⟨hc, hrest⟩ := h
    rcases List.mem_cons.mp hw with rfl | hw
    · exact hc
    · exact ih hrest hw

theorem WellTyped.part (h : v.WellTyped) (hw : w ∈ v.parts) : w.WellTyped := by
  cases v with
  | scalar s => simp [parts] at hw
  | leaf l c => simp [parts] at hw
  | option t content =>
    rw [mem_parts_option] at hw
    subst hw
    exact h.2
  | list t items => exact (AllWellTyped.mem h hw).2
  | set storage t items => exact (AllWellTyped.mem h hw).2
  | map storage k t entries =>
    obtain ⟨e, he, hw⟩ := mem_parts_map.mp hw
    have hentry := EntriesWellTyped.mem h he
    rcases hw with rfl | rfl
    · exact hentry.1.2
    · exact hentry.2.2
  | bean b cells => exact CellsWellTyped.mem h (mem_parts_bean.mp hw)

end Beans.Value
