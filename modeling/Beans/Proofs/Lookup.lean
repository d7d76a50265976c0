import Beans.Schema.Basic
import Mathlib.Data.List.Forall2
import Mathlib.Data.List.Nodup
/-!
# Finding members by name

In a list with distinct names, exactly the member of a name is found under it. The names of getters,
questions and setters differ whatever they are the names of.
-/

set_option autoImplicit false

namespace Beans

theorem eq_of_distinct {α : Type} {name : α → String} {l : List α}
    (distinct : (l.map name).Nodup) {a b : α} (ha : a ∈ l) (hb : b ∈ l) (h : name a = name b) :
    a = b :=
  List.inj_on_of_nodup_map distinct ha hb h

theorem exists_find?_of_mem {α : Type} (name : α → String) {l : List α} {a : α} (ha : a ∈ l) :
    ∃ b ∈ l, l.find? (fun x => name x == name a) = some b ∧ name b = name a := by
  have hsome : (l.find? fun x => name x == name a).isSome = true :=
    List.find?_isSome.mpr ⟨a, ha, by simp⟩
  obtain ⟨b, hb⟩ := Option.isSome_iff_exists.mp hsome
  exact ⟨b, List.mem_of_find?_eq_some hb, hb, by simpa using List.find?_some hb⟩

theorem find?_eq_some_of_distinct {α : Type} {name : α → String} {l : List α}
    (distinct : (l.map name).Nodup) {a : α} (ha : a ∈ l) :
    l.find? (fun x => name x == name a) = some a := by
  obtain ⟨b, hb, hfind, hname⟩ := exists_find?_of_mem name ha
  rw [hfind, eq_of_distinct distinct hb ha hname]

theorem find?_eq_some_iff_of_distinct {α : Type} {name : α → String} {l : List α}
    (distinct : (l.map name).Nodup) {n : String} {a : α} :
    l.find? (fun x => name x == n) = some a ↔ a ∈ l ∧ name a = n := by
  constructor
  · intro h
    exact ⟨List.mem_of_find?_eq_some h, by simpa using List.find?_some h⟩
  · rintro ⟨ha, rfl⟩
    exact find?_eq_some_of_distinct distinct ha

theorem find?_isSome_iff_mem_names {α : Type} {name : α → String} {l : List α} {n : String} :
    (l.find? (fun x => name x == n)).isSome = true ↔ n ∈ l.map name := by
  simp [List.find?_isSome]

theorem exists_getElem?_left {α β : Type} {R : α → β → Prop} {l : List α} {r : List β}
    (h : List.Forall₂ R l r) {i : Nat} {b : β} (hb : r[i]? = some b) :
    ∃ a, l[i]? = some a ∧ R a b := by
  induction h generalizing i with
  | nil => simp at hb
  | @cons a b' l r hab _ ih =>
    cases i with
    | zero =>
      have heq : b' = b := by simpa using hb
      exact ⟨a, rfl, heq ▸ hab⟩
    | succ i => exact ih (by simpa using hb)

/-- What replaces an element has to be related to what stands at the position in the other list. -/
theorem forall₂_set {α β : Type} {R : α → β → Prop} {l : List α} {r : List β}
    (h : List.Forall₂ R l r) {i : Nat} {a : α} {b : β} (ha : l[i]? = some a) (hab : R a b) :
    List.Forall₂ R l (r.set i b) := by
  induction h generalizing i with
  | nil => exact .nil
  | @cons a' b' l r hab' htail ih =>
    cases i with
    | zero =>
      have heq : a' = a := by simpa using ha
      exact .cons (heq ▸ hab) htail
    | succ i => exact .cons hab' (ih (by simpa using ha))

theorem map_eq_map_of_forall₂ {α β γ : Type} {R : α → β → Prop} {f : α → γ} {g : β → γ}
    {l : List α} {r : List β} (h : List.Forall₂ R l r) (hfg : ∀ a b, R a b → f a = g b) :
    l.map f = r.map g := by
  induction h with
  | nil => rfl
  | cons hab _ ih => rw [List.map_cons, List.map_cons, hfg _ _ hab, ih]

namespace Schema

variable {s : Schema} {name : String} {m : Method}

theorem name_of_findMethod? (h : s.findMethod? name = some m) : m.name = name := by
  unfold findMethod? at h
  obtain ⟨methods, _, hm⟩ := List.exists_of_findSome?_eq_some h
  simpa using List.find?_some hm

theorem findMethod?_name (h : s.findMethod? name = some m) : s.findMethod? m.name = some m := by
  rw [name_of_findMethod? h, h]

theorem mem_of_findMethod? (h : s.findMethod? name = some m) (hs : s.ancestors = []) :
    m ∈ s.methods := by
  unfold findMethod? at h
  obtain ⟨methods, hmethods, hm⟩ := List.exists_of_findSome?_eq_some h
  rw [hs] at hmethods
  have heq : methods = s.methods := by simpa using hmethods
  exact heq ▸ List.mem_of_find?_eq_some hm

end Schema

/-! ### Names of accessors -/

theorem getter_ne_question (a b : String) : "get_" ++ a ≠ "is_" ++ b := by
  intro h
  have hchars := congrArg String.toList h
  simp at hchars

theorem getter_ne_setter (a b : String) : "get_" ++ a ≠ "set_" ++ b := by
  intro h
  have hchars := congrArg String.toList h
  simp at hchars

theorem question_ne_setter (a b : String) : "is_" ++ a ≠ "set_" ++ b := by
  intro h
  have hchars := congrArg String.toList h
  simp at hchars

theorem getter_ne_self (name : String) : "get_" ++ name ≠ name := by
  intro h
  have hlength := congrArg String.length h
  simp at hlength

end Beans
