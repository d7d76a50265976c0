import Beans.Error
import Mathlib.Data.List.Forall2
/-!
# Outcomes of computations that may fail

Two computations have the same outcome, up to a relation on their results, if both fail for the same
reason or both succeed with related results. Sequences of such computations have the same outcome again.
-/

set_option autoImplicit false

namespace Beans

universe u
variable {ε : Type u} {α β γ δ : Type u}

theorem bind_eq_ok {x : Except ε α} {f : α → Except ε β} {b : β} :
    (x >>= f) = .ok b ↔ ∃ a, x = .ok a ∧ f a = .ok b := by
  cases x with
  | error e => simp [bind, Except.bind]
  | ok a => simp [bind, Except.bind]

theorem bind_eq_error {x : Except ε α} {f : α → Except ε β} {e : ε} :
    (x >>= f) = .error e ↔ x = .error e ∨ ∃ a, x = .ok a ∧ f a = .error e := by
  cases x with
  | error e => simp [bind, Except.bind]
  | ok a => simp [bind, Except.bind]

theorem map_eq_ok {x : Except ε α} {f : α → β} {b : β} :
    x.map f = .ok b ↔ ∃ a, x = .ok a ∧ f a = b := by
  cases x with
  | error e => simp [Except.map]
  | ok a => simp [Except.map]

theorem mapError_eq_ok {ε' : Type u} {x : Except ε α} {f : ε → ε'} {a : α} :
    x.mapError f = .ok a ↔ x = .ok a := by
  cases x with
  | error e => simp [Except.mapError]
  | ok b => simp [Except.mapError]

theorem toOption_eq_some {x : Except ε α} {a : α} : x.toOption = some a ↔ x = .ok a := by
  cases x with
  | error e => simp [Except.toOption]
  | ok b => simp [Except.toOption]

/-- A traversal succeeds exactly with the results of its elements. -/
theorem mapM_eq_ok_iff {f : α → Except ε β} {l : List α} {r : List β} :
    l.mapM f = .ok r ↔ List.Forall₂ (fun a b => f a = .ok b) l r := by
  induction l generalizing r with
  | nil => cases r <;> simp [pure, Except.pure]
  | cons a l ih =>
    simp only [List.mapM_cons, bind_eq_ok, List.forall₂_cons_left_iff]
    constructor
    · rintro ⟨b, hb, bs, hbs, hr⟩
      cases hr
      exact ⟨b, bs, hb, ih.mp hbs, rfl⟩
    · rintro ⟨b, bs, hb, hbs, rfl⟩
      exact ⟨b, hb, bs, ih.mpr hbs, rfl⟩

theorem mapM_eq_ok_map {f : α → Except ε β} {g : α → β} {l : List α}
    (h : ∀ a ∈ l, f a = .ok (g a)) : l.mapM f = .ok (l.map g) := by
  rw [mapM_eq_ok_iff, List.forall₂_map_right_iff]
  exact List.forall₂_same.mpr h

theorem mapM_eq_some_iff {f : α → Option β} {l : List α} {r : List β} :
    l.mapM f = some r ↔ List.Forall₂ (fun a b => f a = some b) l r := by
  induction l generalizing r with
  | nil => cases r <;> simp
  | cons a l ih =>
    simp only [List.mapM_cons, bind, Option.bind_eq_some_iff, List.forall₂_cons_left_iff]
    constructor
    · rintro ⟨b, hb, bs, hbs, hr⟩
      cases hr
      exact ⟨b, bs, hb, ih.mp hbs, rfl⟩
    · rintro ⟨b, bs, hb, hbs, rfl⟩
      exact ⟨b, hb, bs, ih.mpr hbs, rfl⟩

/-- Both fail for the same reason, or both succeed with related results. -/
inductive SameOutcome (R : α → β → Prop) : Except ε α → Except ε β → Prop where
  | error (e : ε) : SameOutcome R (.error e) (.error e)
  | ok {a : α} {b : β} (h : R a b) : SameOutcome R (.ok a) (.ok b)

namespace SameOutcome

variable {R : α → β → Prop} {S : γ → δ → Prop}

theorem refl {R : α → α → Prop} (h : ∀ a, R a a) (x : Except ε α) : SameOutcome R x x := by
  cases x with
  | error e => exact .error e
  | ok a => exact .ok (h a)

theorem mono {R' : α → β → Prop} {x : Except ε α} {y : Except ε β} (hxy : SameOutcome R x y)
    (h : ∀ a b, R a b → R' a b) : SameOutcome R' x y := by
  cases hxy with
  | error e => exact .error e
  | ok hab => exact .ok (h _ _ hab)

theorem bind {x : Except ε α} {y : Except ε β} {f : α → Except ε γ} {g : β → Except ε δ}
    (hxy : SameOutcome R x y) (hfg : ∀ a b, R a b → SameOutcome S (f a) (g b)) :
    SameOutcome S (x >>= f) (y >>= g) := by
  cases hxy with
  | error e => exact .error e
  | ok hab => exact hfg _ _ hab

theorem exists_left {x : Except ε α} {y : Except ε β} {b : β} (hxy : SameOutcome R x y)
    (hy : y = .ok b) : ∃ a, x = .ok a ∧ R a b := by
  cases hxy with
  | error e => cases hy
  | ok hab => cases hy; exact ⟨_, rfl, hab⟩

theorem exists_right {x : Except ε α} {y : Except ε β} {a : α} (hxy : SameOutcome R x y)
    (hx : x = .ok a) : ∃ b, y = .ok b ∧ R a b := by
  cases hxy with
  | error e => cases hx
  | ok hab => cases hx; exact ⟨_, rfl, hab⟩

theorem error_right {x : Except ε α} {y : Except ε β} {e : ε} (hxy : SameOutcome R x y)
    (hx : x = .error e) : y = .error e := by
  cases hxy with
  | error e' =>
    cases hx
    rfl
  | ok _ => cases hx

theorem eq {x y : Except ε α} (h : SameOutcome Eq x y) : x = y := by
  cases h with
  | error e => rfl
  | ok hab => rw [hab]

end SameOutcome

end Beans
