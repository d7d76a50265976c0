import Beans.Value.Hash
import Beans.Value.Order
import Mathlib.Data.String.Basic
import Mathlib.Order.Compare
/-!
# Laws of scalars

Equality of scalars is equality, but for floats: there the two zeros are one number, and what is not a
number equals nothing. Equal scalars hand the same to a hash function. Scalars of one type are in a linear
order, in which what is not a number has no place. What is made of scalars may be compared part by part.
-/

set_option autoImplicit false

namespace Beans

/-! ### Floating-point numbers -/

namespace FloatFormat

variable {f : FloatFormat} {a b c : Nat}

theorem equal_iff :
    f.equal a b = true ↔ f.isNaN a = false ∧ f.isNaN b = false ∧ f.rank a = f.rank b := by
  simp [equal, and_assoc]

theorem isZero_iff : f.isZero a = true ↔ f.rank a = 0 := by
  unfold isZero rank
  rw [beq_iff_eq]
  split <;> omega

theorem eq_of_rank (ha : a < Nat.pow 2 f.width) (hb : b < Nat.pow 2 f.width)
    (hrank : f.rank a = f.rank b) (hzero : f.rank a ≠ 0) : a = b := by
  unfold rank isNegative magnitude at hrank hzero
  simp only [beq_iff_eq] at hrank hzero
  cases f with
  | single =>
    have hsign : single.signBit = 2147483648 := by decide
    have hwidth : Nat.pow 2 single.width = 4294967296 := by decide
    rw [hsign] at hrank hzero
    rw [hwidth] at ha hb
    split at hrank <;> split at hrank <;> omega
  | double =>
    have hsign : double.signBit = 9223372036854775808 := by decide
    have hwidth : Nat.pow 2 double.width = 18446744073709551616 := by decide
    rw [hsign] at hrank hzero
    rw [hwidth] at ha hb
    split at hrank <;> split at hrank <;> omega

theorem compare?_eq_some {o : Ordering} : f.compare? a b = some o ↔
    f.isNaN a = false ∧ f.isNaN b = false ∧ compare (f.rank a) (f.rank b) = o := by
  unfold compare?
  cases f.isNaN a <;> cases f.isNaN b <;> simp

end FloatFormat

/-- Two steps up come to one step up, and to none only if both do. -/
theorem compare_then {α : Type} {cmp : α → α → Ordering} [Std.TransCmp cmp] {a b c : α}
    (hab : cmp a b ≠ .gt) (hbc : cmp b c ≠ .gt) : cmp a c = (cmp a b).then (cmp b c) := by
  cases h : cmp a b with
  | lt => exact Std.TransCmp.lt_of_lt_of_isLE h (Ordering.isLE_iff_ne_gt.mpr hbc)
  | eq => exact Std.TransCmp.congr_left h
  | gt => exact absurd h hab

/-! ### Scalars -/

namespace ScalarValue

variable {a b c : ScalarValue}

def isNaN : ScalarValue → Bool
  | float f bits => f.isNaN bits
  | bool _ | char _ | int _ _ | string _ => false

theorem equal_cases (h : a.equal b = true) :
    a = b ∨ ∃ f x y, a = float f x ∧ b = float f y ∧ f.equal x y = true := by
  unfold equal at h
  split at h
  · next f x g y =>
    obtain ⟨hformat, hequal⟩ := Bool.and_eq_true_iff.mp h
    obtain rfl := beq_iff_eq.mp hformat
    exact .inr ⟨f, x, y, rfl, rfl, hequal⟩
  · exact .inl (beq_iff_eq.mp h)

theorem equal_float {f : FloatFormat} {x y : Nat} :
    (float f x).equal (float f y) = f.equal x y := by
  simp [equal]

theorem equal_self (h : a.isNaN = false) : a.equal a = true := by
  cases a with
  | float f bits => exact equal_float.trans (FloatFormat.equal_iff.mpr ⟨h, h, rfl⟩)
  | bool _ | char _ | int _ _ | string _ => exact beq_self_eq_true _

theorem type_eq_of_equal (h : a.equal b = true) : a.type = b.type := by
  rcases equal_cases h with rfl | ⟨f, x, y, rfl, rfl, -⟩
  · rfl
  · rfl

theorem equal_symm (h : a.equal b = true) : b.equal a = true := by
  rcases equal_cases h with rfl | ⟨f, x, y, rfl, rfl, hxy⟩
  · exact h
  · obtain ⟨hx, hy, hrank⟩ := FloatFormat.equal_iff.mp hxy
    exact equal_float.trans (FloatFormat.equal_iff.mpr ⟨hy, hx, hrank.symm⟩)

theorem equal_trans (hab : a.equal b = true) (hbc : b.equal c = true) : a.equal c = true := by
  rcases equal_cases hab with rfl | ⟨f, x, y, rfl, rfl, hxy⟩
  · exact hbc
  rcases equal_cases hbc with rfl | ⟨g, y, z, hb, rfl, hyz⟩
  · exact hab
  · cases hb
    obtain ⟨hx, -, hrank⟩ := FloatFormat.equal_iff.mp hxy
    obtain ⟨-, hz, hrank'⟩ := FloatFormat.equal_iff.mp hyz
    exact equal_float.trans (FloatFormat.equal_iff.mpr ⟨hx, hz, hrank.trans hrank'⟩)

theorem writes_eq_of_equal (ha : a.InRange) (hb : b.InRange) (h : a.equal b = true) :
    a.writes = b.writes := by
  rcases equal_cases h with rfl | ⟨f, x, y, rfl, rfl, hxy⟩
  · rfl
  obtain ⟨-, -, hrank⟩ := FloatFormat.equal_iff.mp hxy
  by_cases hzero : f.rank x = 0
  · have hx : f.isZero x = true := FloatFormat.isZero_iff.mpr hzero
    have hy : f.isZero y = true := FloatFormat.isZero_iff.mpr (hrank ▸ hzero)
    simp only [writes, hx, hy, if_true]
  · rw [FloatFormat.eq_of_rank ha hb hrank hzero]

/-! ### The order of scalars -/

/-- The scalars are of one type, and so do their places in its order compare. What is not a number has no
place. -/
inductive Compared : ScalarValue → ScalarValue → Ordering → Prop where
  | bool (a b : Bool) : Compared (bool a) (bool b) (compare a.toNat b.toNat)
  | char (a b : Char) : Compared (char a) (char b) (compare a.toNat b.toNat)
  | int (k : IntKind) (a b : Int) : Compared (int k a) (int k b) (compare a b)
  | float (f : FloatFormat) {a b : Nat} (ha : f.isNaN a = false) (hb : f.isNaN b = false) :
    Compared (float f a) (float f b) (compare (f.rank a) (f.rank b))
  | string (a b : String) : Compared (string a) (string b) (compare a b)

theorem compare?_eq_some {o : Ordering} : a.compare? b = some o ↔ Compared a b o := by
  constructor
  · intro h
    unfold compare? at h
    split at h
    · cases h
      exact .bool _ _
    · cases h
      exact .char _ _
    · split at h
      · next hkind =>
        cases h
        subst hkind
        exact .int _ _ _
      · cases h
    · split at h
      · next hformat =>
        subst hformat
        obtain ⟨ha, hb, rfl⟩ := FloatFormat.compare?_eq_some.mp h
        exact .float _ ha hb
      · cases h
    · cases h
      exact .string _ _
    · cases h
  · intro h
    cases h with
    | bool a b => rfl
    | char a b => rfl
    | int k a b => exact if_pos rfl
    | float f ha hb => exact (if_pos rfl).trans (FloatFormat.compare?_eq_some.mpr ⟨ha, hb, rfl⟩)
    | string a b => rfl

namespace Compared

variable {o o' : Ordering}

theorem type_eq (h : Compared a b o) : a.type = b.type := by
  cases h <;> rfl

theorem swap (h : Compared a b o) : Compared b a o.swap := by
  cases h with
  | bool a b =>
    rw [← Std.OrientedCmp.eq_swap]
    exact .bool b a
  | char a b =>
    rw [← Std.OrientedCmp.eq_swap]
    exact .char b a
  | int k a b =>
    rw [← Std.OrientedCmp.eq_swap]
    exact .int k b a
  | float f ha hb =>
    rw [← Std.OrientedCmp.eq_swap]
    exact .float f hb ha
  | string a b =>
    rw [← Std.OrientedCmp.eq_swap]
    exact .string b a

theorem equal (h : Compared a b .eq) : a.equal b = true := by
  generalize ho : Ordering.eq = o at h
  cases h with
  | bool a b =>
    have hab : a = b := by
      have hnat := compare_eq_iff_eq.mp ho.symm
      revert a b
      decide
    rw [hab]
    exact equal_self rfl
  | char a b =>
    rw [Char.toNat_inj.mp (compare_eq_iff_eq.mp ho.symm)]
    exact equal_self rfl
  | int k a b =>
    rw [compare_eq_iff_eq.mp ho.symm]
    exact equal_self rfl
  | float f ha hb =>
    have hrank := compare_eq_iff_eq.mp ho.symm
    exact equal_float.trans (FloatFormat.equal_iff.mpr ⟨ha, hb, hrank⟩)
  | string a b =>
    rw [compare_eq_iff_eq.mp ho.symm]
    exact equal_self rfl

theorem eq_of_equal (h : Compared a b o) (hequal : a.equal b = true) : o = .eq := by
  rcases equal_cases hequal with rfl | ⟨f, x, y, rfl, rfl, hxy⟩
  · cases h <;> exact compare_eq_iff_eq.mpr rfl
  · cases h
    exact compare_eq_iff_eq.mpr (FloatFormat.equal_iff.mp hxy).2.2

theorem trans (hab : Compared a b o) (hbc : Compared b c o') (ho : o ≠ .gt) (ho' : o' ≠ .gt) :
    Compared a c (o.then o') := by
  cases hab with
  | bool a b =>
    cases hbc
    rw [← compare_then ho ho']
    exact .bool _ _
  | char a b =>
    cases hbc
    rw [← compare_then ho ho']
    exact .char _ _
  | int k a b =>
    cases hbc
    rw [← compare_then ho ho']
    exact .int _ _ _
  | float f ha hb =>
    cases hbc with
    | float _ _ hc =>
      rw [← compare_then ho ho']
      exact .float _ ha hc
  | string a b =>
    cases hbc
    rw [← compare_then ho ho']
    exact .string _ _

end Compared

end ScalarValue

/-! ### Contents of leaf types -/

namespace LeafContent

variable {a b c : LeafContent}

/-- Whether something in the content is not a number. -/
def isNaN : LeafContent → Bool
  | wrapper s => s.isNaN
  | choice _ => false
  | pair a b => a.isNaN || b.isNaN

theorem equal_self (h : a.isNaN = false) : a.equal a = true := by
  induction a with
  | wrapper s => exact ScalarValue.equal_self h
  | choice i => exact beq_self_eq_true i
  | pair a b iha ihb =>
    obtain ⟨ha, hb⟩ := Bool.or_eq_false_iff.mp h
    exact Bool.and_eq_true_iff.mpr ⟨iha ha, ihb hb⟩

theorem equal_symm (h : a.equal b = true) : b.equal a = true := by
  induction a generalizing b with
  | wrapper s =>
    cases b with
    | wrapper t => exact ScalarValue.equal_symm h
    | choice _ | pair _ _ => cases h
  | choice i =>
    cases b with
    | choice j => exact beq_iff_eq.mpr (beq_iff_eq.mp h).symm
    | wrapper _ | pair _ _ => cases h
  | pair a a' iha iha' =>
    cases b with
    | pair b b' =>
      obtain ⟨hab, hab'⟩ := Bool.and_eq_true_iff.mp h
      exact Bool.and_eq_true_iff.mpr ⟨iha hab, iha' hab'⟩
    | wrapper _ | choice _ => cases h

theorem equal_trans (hab : a.equal b = true) (hbc : b.equal c = true) : a.equal c = true := by
  induction a generalizing b c with
  | wrapper s =>
    cases b with
    | wrapper t =>
      cases c with
      | wrapper u => exact ScalarValue.equal_trans hab hbc
      | choice _ | pair _ _ => cases hbc
    | choice _ | pair _ _ => cases hab
  | choice i =>
    cases b with
    | choice j =>
      obtain rfl := beq_iff_eq.mp hab
      exact hbc
    | wrapper _ | pair _ _ => cases hab
  | pair a a' iha iha' =>
    cases b with
    | pair b b' =>
      cases c with
      | pair c c' =>
        obtain ⟨hab, hab'⟩ := Bool.and_eq_true_iff.mp hab
        obtain ⟨hbc, hbc'⟩ := Bool.and_eq_true_iff.mp hbc
        exact Bool.and_eq_true_iff.mpr ⟨iha hab hbc, iha' hab' hbc'⟩
      | wrapper _ | choice _ => cases hbc
    | wrapper _ | choice _ => cases hab

end LeafContent

end Beans
