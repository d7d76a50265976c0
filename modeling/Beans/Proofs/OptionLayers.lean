import Beans.Proofs.Acceptance
import Beans.Proofs.Parts
/-!
# Coercion between `Option` layers

Every type is an innermost one under some number of `Option` layers, and a coercion only ever adds layers
or takes some away. On the way up the value is wrapped, and the way back leads to the value again. On the
way down it is opened, to what is found under the layers, or to null where one of them holds nothing.

A value that is not related to the target is opened as well, and by the time that this turns out its
layers are gone. So a refusal holds what was under them, and there is none if one of them holds nothing.
-/

set_option autoImplicit false

namespace Beans

/-! ### Layers of types -/

namespace Ty

variable {t s : Ty}

def layered (x : Ty) : Nat → Ty
  | 0 => x
  | n + 1 => .option (x.layered n)

def innermost : Ty → Ty
  | option item => item.innermost
  | t => t

def layers : Ty → Nat
  | option item => item.layers + 1
  | _ => 0

theorem layered_innermost (t : Ty) : t.innermost.layered t.layers = t := by
  induction t with
  | option item ih => exact congrArg option ih
  | _ => rfl

theorem isOption_innermost (t : Ty) : t.innermost.isOption = false := by
  induction t with
  | option item ih => exact ih
  | _ => rfl

theorem innermost_layered (x : Ty) (n : Nat) : (x.layered n).innermost = x.innermost := by
  induction n with
  | zero => rfl
  | succ n ih => exact ih

theorem layers_eq_zero : t.layers = 0 ↔ t.isOption = false := by
  cases t <;> simp [layers, isOption]

theorem layered_add (x : Ty) (n k : Nat) : (x.layered n).layered k = x.layered (n + k) := by
  induction k with
  | zero => rfl
  | succ k ih => exact congrArg option ih

/-- Of two types one takes the values of the other if it is the other under some layers. -/
theorem isAssignableFrom_iff : t.isAssignableFrom s = true ↔ ∃ k, t = s.layered k := by
  constructor
  · intro h
    induction t with
    | option item ih =>
      rcases (option_isAssignableFrom item s).mp h with rfl | h
      · exact ⟨0, rfl⟩
      · obtain ⟨k, hk⟩ := ih h
        exact ⟨k + 1, congrArg option hk⟩
    | _ =>
      obtain rfl | ⟨_, hoption, _⟩ := eq_or_option_of_isAssignableFrom h
      · exact ⟨0, rfl⟩
      · cases hoption
  · rintro ⟨k, rfl⟩
    induction k with
    | zero => exact s.isAssignableFrom_self
    | succ k ih => exact (option_isAssignableFrom _ s).mpr (.inr ih)

theorem innermost_eq_of_isAssignableFrom (h : t.isAssignableFrom s = true) :
    t.innermost = s.innermost := by
  obtain ⟨k, rfl⟩ := isAssignableFrom_iff.mp h
  exact s.innermost_layered k

theorem not_isAssignableFrom_layered (x : Ty) {m n : Nat} (h : m < n) :
    ¬ (x.layered m).isAssignableFrom (x.layered n) = true := by
  have hsize (k : Nat) : sizeOf (x.layered k) = sizeOf x + k := by
    induction k with
    | zero => rfl
    | succ k ih =>
      simp only [layered, option.sizeOf_spec, ih]
      omega
  intro hassign
  have hle := sizeOf_le_of_isAssignableFrom hassign
  rw [hsize, hsize] at hle
  omega

end Ty

/-! ### Layers of values -/

namespace Value

variable {t x : Ty} {v w : Value}

/-- The value in a number of layers that hold something. -/
def wrapped (v : Value) : Nat → Value
  | 0 => v
  | k + 1 => .option (v.type.layered k) (some (v.wrapped k))

def under : Nat → Value → Option Value
  | 0, v => some v
  | k + 1, option _ content => content.bind (under k)
  | _ + 1, _ => none

def core (v : Value) : Option Value :=
  v.under v.type.layers

theorem exists_option_of_type (h : v.type = .option t) : ∃ content, v = .option t content := by
  cases v with
  | option item content =>
    cases h
    exact ⟨content, rfl⟩
  | _ => cases h

theorem type_of_under {n : Nat} (hv : v.WellTyped) (htype : v.type = x.layered n)
    (h : v.under n = some w) : w.type = x := by
  induction n generalizing v with
  | zero =>
    cases h
    exact htype
  | succ n ih =>
    obtain ⟨content, rfl⟩ := exists_option_of_type htype
    obtain ⟨u, rfl, hu⟩ := Option.bind_eq_some_iff.mp h
    exact ih hv.2 hv.1 hu

theorem type_of_core (hv : v.WellTyped) (h : v.core = some w) : w.type = v.type.innermost :=
  type_of_under hv v.type.layered_innermost.symm h

theorem core_of_not_isOption (h : v.type.isOption = false) : v.core = some v := by
  rw [core, Ty.layers_eq_zero.mpr h]
  rfl

/-! ### The way up -/

theorem coerce_option_of_isAssignableFrom (h : t.isAssignableFrom v.type = true) :
    v.coerce (.option t) = (v.coerce t).map fun w => some (.option t w) := by
  have hlayer := (Ty.option_isAssignableFrom t v.type).mpr (.inr h)
  rw [coerce_of_isAssignableFrom h, coerce_of_isAssignableFrom hlayer, wrapInto_option h]
  rfl

theorem coerce_layered (v : Value) (k : Nat) :
    v.coerce (v.type.layered k) = .ok (some (v.wrapped k)) := by
  induction k with
  | zero => exact coerce_self rfl
  | succ k ih =>
    have hassign : (v.type.layered k).isAssignableFrom v.type = true :=
      Ty.isAssignableFrom_iff.mpr ⟨k, rfl⟩
    rw [Ty.layered, coerce_option_of_isAssignableFrom hassign, ih]
    rfl

/-! ### The way down -/

theorem coerce_content {content : Option Value} (h : ¬ t.isAssignableFrom (.option x) = true) :
    (Value.option x content).coerce t = coerceContent t content := by
  unfold coerce
  exact if_neg h

theorem coerce_wrapped (v : Value) (k : Nat) : (v.wrapped k).coerce v.type = .ok (some v) := by
  induction k with
  | zero => exact coerce_self rfl
  | succ k ih =>
    have hdown := v.type.not_isAssignableFrom_layered (Nat.succ_pos k)
    exact (coerce_content hdown).trans ih

theorem coerce_under {m n : Nat} (hv : v.WellTyped) (htype : v.type = x.layered n) (h : m ≤ n) :
    v.coerce (x.layered m) = .ok (v.under (n - m)) := by
  induction n generalizing v with
  | zero =>
    obtain rfl := Nat.le_zero.mp h
    exact coerce_self htype
  | succ n ih =>
    rcases Nat.eq_or_lt_of_le h with rfl | hlt
    · rw [Nat.sub_self]
      exact coerce_self htype
    · obtain ⟨content, rfl⟩ := exists_option_of_type htype
      have hle : m ≤ n := Nat.le_of_lt_succ hlt
      have hdown := x.not_isAssignableFrom_layered hlt
      rw [coerce_content hdown, Nat.succ_sub hle]
      cases content with
      | none => rfl
      | some u => exact ih hv.2 hv.1 hle

theorem coerce_of_layered {m n : Nat} (hv : v.WellTyped) (htype : v.type = x.layered n) :
    v.coerce (x.layered m) =
      .ok (if n ≤ m then some (v.wrapped (m - n)) else v.under (n - m)) := by
  split
  · next h =>
    have htarget : x.layered m = v.type.layered (m - n) := by
      rw [htype, Ty.layered_add, Nat.add_sub_of_le h]
    rw [htarget, coerce_layered]
  · next h => exact coerce_under hv htype (Nat.le_of_not_le h)

/-- Where the innermost types differ, all layers are taken off in vain. -/
theorem coerce_unrelated (hv : v.WellTyped) (h : t.innermost ≠ v.type.innermost) :
    v.coerce t = match v.core with
      | some rest => .error rest
      | none => .ok none := by
  have hrefused (n : Nat) : ∀ v : Value, v.WellTyped → v.type.layers = n →
      t.innermost ≠ v.type.innermost → v.coerce t = match v.under n with
        | some rest => .error rest
        | none => .ok none := by
    induction n with
    | zero =>
      intro v hv hn hne
      have hassign := mt Ty.innermost_eq_of_isAssignableFrom hne
      unfold coerce
      rw [if_neg hassign]
      cases v with
      | option item content => cases hn
      | _ => rfl
    | succ n ih =>
      intro v hv hn hne
      have hassign := mt Ty.innermost_eq_of_isAssignableFrom hne
      cases v with
      | option item content =>
        rw [coerce_content hassign]
        cases content with
        | none => rfl
        | some u =>
          obtain ⟨rfl, hu⟩ := hv
          exact ih u hu (Nat.succ.inj hn) hne
      | _ => cases hn
  exact hrefused _ v hv rfl h

/-! ### Coercions of well-typed values -/

/-- Between types over one innermost type every value coerces, to itself in more layers or to what is
found under those that are taken off. What comes out is typed, and what was wrapped comes back. -/
theorem coerce_between_layers (hv : v.WellTyped) :
    (∀ (x : Ty) (n m : Nat), v.type = x.layered n →
      v.coerce (x.layered m) = .ok (if n ≤ m then some (v.wrapped (m - n)) else v.under (n - m))) ∧
    (∀ t w, v.coerce t = .ok (some w) → w.type = t) ∧
    (∀ t, t.isAssignableFrom v.type = true ↔ ∃ k, t = v.type.layered k) ∧
    ∀ t, t.isAssignableFrom v.type = true →
      ∃ w, v.coerce t = .ok (some w) ∧ w.coerce v.type = .ok (some v) := by
  refine ⟨fun x n m htype => coerce_of_layered hv htype,
    fun t w h => Ty.admits_some.mp (admits_of_coerce v h), fun t => Ty.isAssignableFrom_iff, ?_⟩
  intro t h
  obtain ⟨k, rfl⟩ := Ty.isAssignableFrom_iff.mp h
  exact ⟨v.wrapped k, v.coerce_layered k, v.coerce_wrapped k⟩

/-- An empty layer in one that holds it: without the outer one it is left, without both there is null,
and a third one is taken off again. -/
theorem absent_between_layers :
    let byte : Ty := .int .u8
    let v : Value := .option (.option byte) (some (.option byte none))
    v.WellTyped ∧ v.coerce (.option byte) = .ok (some (.option byte none)) ∧
      v.coerce byte = .ok none ∧
      ∃ w, v.coerce (byte.layered 3) = .ok (some w) ∧ w.coerce v.type = .ok (some v) := by
  intro byte v
  have hv : v.WellTyped := ⟨rfl, trivial⟩
  obtain ⟨hlayers, -, -, hback⟩ := coerce_between_layers hv
  exact ⟨hv, hlayers byte 2 1 rfl, hlayers byte 2 0 rfl,
    hback _ (Ty.isAssignableFrom_iff.mpr ⟨1, rfl⟩)⟩

/-- A value coerces where the innermost types are the same, and also where one of its layers holds
nothing. A refusal holds what was under all layers, which is the value itself if and only if it had
none. -/
theorem coerce_refuses (hv : v.WellTyped) (t : Ty) :
    ((∃ w, v.coerce t = .ok w) ↔ t.innermost = v.type.innermost ∨ v.core = none) ∧
    (∀ rest, v.coerce t = .error rest ↔ t.innermost ≠ v.type.innermost ∧ v.core = some rest) ∧
    ∀ rest, v.coerce t = .error rest →
      rest.type = v.type.innermost ∧ (rest = v ↔ v.type.isOption = false) := by
  have hrefused (rest : Value) :
      v.coerce t = .error rest ↔ t.innermost ≠ v.type.innermost ∧ v.core = some rest := by
    by_cases h : t.innermost = v.type.innermost
    · obtain ⟨w, hw⟩ : ∃ w, v.coerce t = .ok w := by
        have hlayers := coerce_of_layered (m := t.layers) hv v.type.layered_innermost.symm
        rw [← h, t.layered_innermost] at hlayers
        exact ⟨_, hlayers⟩
      rw [hw]
      simp [h]
    · rw [coerce_unrelated hv h]
      cases v.core <;> simp [h]
  refine ⟨?_, hrefused, ?_⟩
  · constructor
    · rintro ⟨w, hw⟩
      by_contra hneither
      obtain ⟨hne, hcore⟩ := not_or.mp hneither
      obtain ⟨rest, hrest⟩ := Option.ne_none_iff_exists'.mp hcore
      cases hw.symm.trans ((hrefused rest).mpr ⟨hne, hrest⟩)
    · intro h
      cases hv' : v.coerce t with
      | ok w => exact ⟨w, rfl⟩
      | error rest =>
        obtain ⟨hne, hcore⟩ := (hrefused rest).mp hv'
        rcases h with h | h
        · exact absurd h hne
        · cases hcore.symm.trans h
  · intro rest h
    obtain ⟨-, hcore⟩ := (hrefused rest).mp h
    have htype := type_of_core hv hcore
    refine ⟨htype, ?_, ?_⟩
    · rintro rfl
      rw [htype]
      exact rest.type.isOption_innermost
    · intro hoption
      exact Option.some.inj (hcore.symm.trans (core_of_not_isOption hoption))

theorem someSome_refused :
    let byte : Ty := .int .u8
    let v := (ofInt .u8 1).wrapped 2
    v.WellTyped ∧ v.coerce .string = .error (ofInt .u8 1) ∧ ofInt .u8 1 ≠ v ∧
      (∃ w, v.coerce (byte.layered 3) = .ok w) := by
  intro byte v
  have hv : v.WellTyped := ⟨rfl, rfl, (by decide : IntKind.u8.InRange 1)⟩
  have hrefused := (coerce_refuses hv .string).2.1 (ofInt .u8 1) |>.mpr ⟨nofun, rfl⟩
  refine ⟨hv, hrefused, ?_, (coerce_refuses hv (byte.layered 3)).1.mpr (.inl rfl)⟩
  intro h
  cases ((coerce_refuses hv .string).2.2 _ hrefused).2.mp h

/-- Where a text is expected, a byte in a layer is given back without the layer, and one that is absent
is not given back at all. -/
theorem byte_not_given_back :
    let present : Value := .option (.int .u8) (some (ofInt .u8 1))
    let absent : Value := .option (.int .u8) none
    present.WellTyped ∧ absent.WellTyped ∧
      Ty.string.innermost ≠ present.type.innermost ∧ Ty.string.innermost ≠ absent.type.innermost ∧
      present.coerce .string = .error (ofInt .u8 1) ∧ present.coerce .string ≠ .error present ∧
      absent.coerce .string = .ok none := by
  have hpresent : (Value.option (.int .u8) (some (ofInt .u8 1))).WellTyped :=
    ⟨rfl, (by decide : IntKind.u8.InRange 1)⟩
  have hne : ofInt .u8 1 ≠ .option (.int .u8) (some (ofInt .u8 1)) := nofun
  exact ⟨hpresent, trivial, nofun, nofun, rfl, fun h => hne (Except.error.inj h), rfl⟩

end Value

end Beans
