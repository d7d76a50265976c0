import Beans.Property
import Beans.Proofs.Outcome
/-!
# Types of coerced values

What a coercion leaves is null or has the target type, so a property stores nothing but values of its
slot type. A value whose type can stand where the target is expected is never refused.
-/

set_option autoImplicit false

namespace Beans

def Ty.Admits (t : Ty) (v : Option Value) : Prop :=
  ∀ w, v = some w → w.type = t

namespace Ty

theorem admits_none (t : Ty) : t.Admits none := nofun

theorem admits_some {t : Ty} {v : Value} : t.Admits (some v) ↔ v.type = t := by
  constructor
  · intro h
    exact h v rfl
  · rintro h w hw
    cases hw
    exact h

end Ty

namespace Value

variable {t : Ty} {v : Value}

theorem coerce_of_isAssignableFrom (h : t.isAssignableFrom v.type = true) :
    v.coerce t = .ok (some (v.wrapInto t)) := by
  unfold coerce
  rw [if_pos h]

mutual

theorem admits_of_coerce {r : Option Value} (v : Value) (h : v.coerce t = .ok r) : t.Admits r := by
  unfold coerce at h
  split at h
  · rename_i hassign
    cases h
    exact Ty.admits_some.mpr (type_wrapInto v t hassign)
  · cases v with
    | option item content => exact admits_of_coerceContent content h
    | _ => cases h
termination_by structural v

theorem admits_of_coerceContent {r : Option Value} (content : Option Value)
    (h : coerceContent t content = .ok r) : t.Admits r := by
  cases content with
  | none =>
    cases h
    exact t.admits_none
  | some v => exact admits_of_coerce v h
termination_by structural content

end

theorem type_of_zero? (h : zero? t = some v) : v.type = t := by
  cases t with
  | scalar s =>
    obtain ⟨z, hz, rfl⟩ := Option.map_eq_some_iff.mp h
    cases s <;> cases hz <;> rfl
  | _ => cases h

/-- Only types without `Option` layers have a zero, and these take no values but their own. -/
theorem zero?_admits {param : Ty} (h : param.isAssignableFrom t = true) : t.Admits (zero? param) := by
  intro v hv
  cases param with
  | scalar s =>
    have heq : Ty.scalar s = t := by simpa [Ty.isAssignableFrom] using h
    rw [type_of_zero? hv, heq]
  | _ => cases hv

end Value

namespace Property

variable {p : Property} {v r : Option Value}

theorem admits_of_accept? (h : p.accept? v = .ok r) : p.slotType.Admits r := by
  cases v with
  | none =>
    cases h
    exact p.slotType.admits_none
  | some v =>
    change p.accept v = .ok r at h
    unfold accept at h
    split at h
    · cases hcoerce : v.coerce p.slotType with
      | error rest =>
        rw [hcoerce] at h
        cases h
      | ok w =>
        rw [hcoerce] at h
        cases h
        exact Value.admits_of_coerce v hcoerce
    · cases h

theorem kind_of_accept? {e : BeanError} (h : p.accept? v = .error e) : e.kind = "TypeMismatch" := by
  cases v with
  | none => cases h
  | some v =>
    change p.accept v = .error e at h
    unfold accept at h
    split at h
    · cases hcoerce : v.coerce p.slotType with
      | error rest =>
        rw [hcoerce] at h
        cases h
        rfl
      | ok w =>
        rw [hcoerce] at h
        cases h
    · cases h
      rfl

end Property

end Beans
