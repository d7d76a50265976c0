import Beans.Proofs.Coercion
import Beans.Proofs.Stateful
/-!
# Accepted values

A property whose getter shows at most one `Option` layer more than its slot holds accepts, besides the
values that can stand in the slot, exactly those with this one layer. What such a property shows it
accepts again, and stores what it was read from. A value that is accepted coerces to the type with the
layer as it coerces to the slot type. To set a property is to write what it accepts.
-/

set_option autoImplicit false

namespace Beans

/-! ### Assignable types -/

namespace Ty

variable {t s : Ty}

theorem eq_or_option_of_isAssignableFrom (h : t.isAssignableFrom s = true) :
    t = s ∨ ∃ item, t = .option item ∧ item.isAssignableFrom s = true := by
  cases t with
  | option item => exact ((option_isAssignableFrom item s).mp h).imp_right fun h => ⟨item, rfl, h⟩
  | _ => exact .inl (by simpa [isAssignableFrom] using h)

theorem sizeOf_le_of_isAssignableFrom (h : t.isAssignableFrom s = true) : sizeOf s ≤ sizeOf t := by
  induction t with
  | option item ih =>
    rcases (option_isAssignableFrom item s).mp h with rfl | h
    · exact Nat.le_refl _
    · have hitem := ih h
      simp only [option.sizeOf_spec]
      omega
  | _ =>
    obtain rfl | ⟨_, hoption, _⟩ := eq_or_option_of_isAssignableFrom h
    · exact Nat.le_refl _
    · cases hoption

theorem not_isAssignableFrom_option (t : Ty) : ¬ t.isAssignableFrom (.option t) = true := by
  intro h
  have hsize := sizeOf_le_of_isAssignableFrom h
  simp only [option.sizeOf_spec] at hsize
  omega

theorem isAssignableFrom_option (h : t.isAssignableFrom s = true) :
    t = s ∨ t.isAssignableFrom (.option s) = true := by
  induction t with
  | option item ih =>
    rcases (option_isAssignableFrom item s).mp h with rfl | h
    · exact .inl rfl
    · rcases ih h with rfl | h
      · exact .inr (isAssignableFrom_self _)
      · exact .inr ((option_isAssignableFrom item _).mpr (.inr h))
  | _ =>
    obtain rfl | ⟨_, hoption, _⟩ := eq_or_option_of_isAssignableFrom h
    · exact .inl rfl
    · cases hoption

end Ty

/-! ### Coercions -/

namespace Value

variable {t : Ty} {v : Value} {w : Option Value}

theorem wrapInto_self (h : v.type = t) : v.wrapInto t = v := by
  unfold wrapInto
  exact if_pos h.symm

theorem coerce_self (h : v.type = t) : v.coerce t = .ok (some v) := by
  have hassign : t.isAssignableFrom v.type = true := by
    rw [h]
    exact t.isAssignableFrom_self
  rw [coerce_of_isAssignableFrom hassign, wrapInto_self h]

theorem coerceContent_of_admits (h : t.Admits w) : coerceContent t w = .ok w := by
  cases w with
  | none => rfl
  | some v => exact coerce_self (Ty.admits_some.mp h)

theorem coerce_option (h : t.Admits w) : (Value.option t w).coerce t = .ok w := by
  have hlayer : ¬ t.isAssignableFrom (Value.option t w).type = true := t.not_isAssignableFrom_option
  unfold coerce
  rw [if_neg hlayer]
  exact coerceContent_of_admits h

theorem wrapInto_option (h : t.isAssignableFrom v.type = true) :
    v.wrapInto (.option t) = .option t (some (v.wrapInto t)) := by
  have hne : Ty.option t ≠ v.type := by
    intro heq
    rw [← heq] at h
    exact t.not_isAssignableFrom_option h
  rw [wrapInto, if_neg hne]

end Value

/-! ### Properties -/

namespace Property

variable {p : Property} {found : Ty} {v : Value} {w : Option Value}

/-- The property shows what its slot holds, with one `Option` layer more or without. -/
def ShowsSlot (p : Property) : Prop :=
  p.type = p.slotType ∨ p.type = .option p.slotType

theorem accepts_iff (hp : p.ShowsSlot) :
    p.accepts found = true ↔ p.slotType.isAssignableFrom found = true ∨ found = .option p.slotType := by
  unfold accepts
  rw [Bool.or_eq_true, Bool.or_eq_true]
  constructor
  · rintro ((h | h) | h)
    · rcases hp with hsame | hlayer
      · exact .inl (hsame ▸ h)
      · rw [hlayer] at h
        exact ((Ty.option_isAssignableFrom _ _).mp h).symm.imp_right Eq.symm
    · exact .inl h
    · split at h
      · rename_i item
        exact (Ty.isAssignableFrom_option h).symm.imp_right (congrArg Ty.option ·.symm)
      · cases h
  · rintro (h | rfl)
    · exact .inl (.inr h)
    · exact .inr p.slotType.isAssignableFrom_self

theorem accept?_eq_ok :
    p.accept? (some v) = .ok w ↔ p.accepts v.type = true ∧ v.coerce p.slotType = .ok w := by
  constructor
  · intro h
    change p.accept v = _ at h
    unfold accept at h
    split at h
    · rename_i haccepts
      cases hv : v.coerce p.slotType with
      | error rest =>
        rw [hv] at h
        cases h
      | ok r =>
        rw [hv] at h
        cases h
        exact ⟨haccepts, rfl⟩
    · cases h
  · rintro ⟨haccepts, hv⟩
    change p.accept v = _
    rw [accept, if_pos haccepts, hv]
    rfl

theorem accept?_of_admits (h : p.slotType.Admits w) : p.accept? w = .ok w := by
  cases w with
  | none => rfl
  | some v =>
    have htype : v.type = p.slotType := Ty.admits_some.mp h
    have haccepts : p.accepts v.type = true := by
      unfold accepts
      rw [htype, p.slotType.isAssignableFrom_self, Bool.or_true, Bool.true_or]
    exact accept?_eq_ok.mpr ⟨haccepts, Value.coerce_self htype⟩

theorem accept?_option (h : p.slotType.Admits w) :
    p.accept? (some (.option p.slotType w)) = .ok w := by
  have haccepts : p.accepts (.option p.slotType) = true :=
    Bool.or_eq_true_iff.mpr (.inr p.slotType.isAssignableFrom_self)
  exact accept?_eq_ok.mpr ⟨haccepts, Value.coerce_option h⟩

/-- A value that is accepted becomes the same under one `Option` layer more. -/
theorem coerce_option_of_accepts (hp : p.ShowsSlot) (hv : v.WellTyped)
    (haccepts : p.accepts v.type = true) (h : v.coerce p.slotType = .ok w) :
    v.coerce (.option p.slotType) = .ok (some (.option p.slotType w)) := by
  rcases (accepts_iff hp).mp haccepts with hassign | hlayer
  · have hlayer := (Ty.option_isAssignableFrom p.slotType v.type).mpr (.inr hassign)
    rw [Value.coerce_of_isAssignableFrom hassign] at h
    cases h
    rw [Value.coerce_of_isAssignableFrom hlayer, Value.wrapInto_option hassign]
  · cases v with
    | option item content =>
      cases hlayer
      have hcontent : p.slotType.Admits content := by
        rintro x rfl
        exact hv.1
      rw [Value.coerce_option hcontent] at h
      cases h
      exact Value.coerce_self rfl
    | _ => cases hlayer

/-- A value that is offered to a property that is both read and written is accepted and then written. -/
theorem set_eq {b : Bean} (hstyle : p.style = .readWrite)
    (hb : b.type = p.declaringType) (v : Option Value) :
    p.set v b = match p.accept? v with
      | .ok w => p.accessor.write w b
      | .error e => (.error e, b) := by
  have hcheck : p.checkBean b = .ok () := if_pos hb
  have hset : p.set v b = (ofExcept (p.accept? v) >>= p.accessor.write) b := by
    unfold Property.set
    rw [if_neg (not_not.mpr hstyle)]
    change ((getThe Bean : BeanM BeanError Bean) >>= fun b => ofExcept (p.checkBean b) >>= fun _ =>
      ofExcept (p.accept? v) >>= p.accessor.write) b = _
    rw [Stateful.bind_of_ok (Stateful.getThe_apply b), hcheck,
      Stateful.bind_of_ok (Stateful.ofExcept_ok () b)]
  rw [hset]
  cases p.accept? v with
  | ok w => exact Stateful.bind_of_ok (Stateful.ofExcept_ok w b)
  | error e => exact Stateful.bind_of_error (Stateful.ofExcept_error e b)

end Property

end Beans
