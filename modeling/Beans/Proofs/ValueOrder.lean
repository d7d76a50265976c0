import Beans.Proofs.Parts
import Beans.Proofs.Scalars
import Beans.Proofs.Traits
import Beans.Value.Order
/-!
# Laws of the order of values

Values of different types have no order, and what comes before from one side comes after from the other.
Values that compare as equal are equal, and equal values that compare at all compare as equal. Two steps up
make one step up: in lists the first elements that differ decide, and these may stand at different places in
the two steps. All this rests on the orders of leaf types, which are to be total and to agree with equality.
-/

set_option autoImplicit false

namespace Beans.Value

variable {o o' : Ordering}

theorem eq_lt_of_ne (hne : o ≠ .eq) (hgt : o ≠ .gt) : o = .lt := by
  cases o with
  | lt => rfl
  | eq => exact absurd rfl hne
  | gt => exact absurd rfl hgt

theorem then_lt (ho : o ≠ .gt) : o.then .lt = .lt := by
  cases o with
  | lt | eq => rfl
  | gt => exact absurd rfl ho

variable [Traits] {a b c : Value}

/-- The two values have one type, and what decides between them compares so. -/
inductive Compared : Value → Value → Ordering → Prop where
  | scalar {a b : ScalarValue} {o : Ordering} (h : a.Compared b o) : Compared (scalar a) (scalar b) o
  | leaf {l : LeafType} {order : LeafContent → LeafContent → Ordering}
    (hl : (Traits.leaf l).order? = some order) (a b : LeafContent) :
    Compared (leaf l a) (leaf l b) (order a b)
  | option (t : Ty) {a b : Option Value} {o : Ordering} (h : compareContent? a b = some o) :
    Compared (option t a) (option t b) o
  | list (t : Ty) {a b : List Value} {o : Ordering} (h : compareItems? a b = some o) :
    Compared (list t a) (list t b) o
  | set (t : Ty) {a b : List Value} {o : Ordering} (h : compareItems? a b = some o) :
    Compared (set .sorted t a) (set .sorted t b) o

theorem compare?_eq_some : a.compare? b = some o ↔ Compared a b o := by
  constructor
  · intro h
    unfold compare? at h
    split at h
    · exact .scalar (ScalarValue.compare?_eq_some.mp h)
    · split at h
      · next hl =>
        subst hl
        obtain ⟨order, horder, rfl⟩ := Option.map_eq_some_iff.mp h
        exact .leaf horder _ _
      · cases h
    · split at h
      · next ht =>
        subst ht
        exact .option _ h
      · cases h
    · split at h
      · next ht =>
        subst ht
        exact .list _ h
      · cases h
    · split at h
      · next ht =>
        obtain ⟨rfl, rfl, rfl⟩ := ht
        exact .set _ h
      · cases h
    · cases h
  · intro h
    cases h with
    | scalar h => exact ScalarValue.compare?_eq_some.mpr h
    | leaf hl x y => exact (if_pos rfl).trans (congrArg (Option.map (· x y)) hl)
    | option t h => exact (if_pos rfl).trans h
    | list t h => exact (if_pos rfl).trans h
    | set t h => exact (if_pos ⟨rfl, rfl, rfl⟩).trans h

theorem Compared.type_eq (h : Compared a b o) : a.type = b.type := by
  cases h with
  | scalar h => exact congrArg Ty.scalar h.type_eq
  | leaf _ _ | option _ _ | list _ _ | set _ _ => rfl

/-- Either the first elements are equal and the others decide, or they decide. -/
theorem compareItems?_cons {l m : List Value} : compareItems? (a :: l) (b :: m) = some o ↔
    a.compare? b = some .eq ∧ compareItems? l m = some o ∨ a.compare? b = some o ∧ o ≠ .eq := by
  rw [compareItems?]
  rcases h : a.compare? b with _ | _ | _ | _
  · simp
  · cases o <;> simp
  · cases o <;> simp
  · cases o <;> simp

/-! ### From the other side -/

def Reverses (a : Value) : Prop :=
  ∀ b o, a.compare? b = some o → b.compare? a = some o.swap

theorem compareItems?_swap {l m : List Value} (hl : ∀ v ∈ l, v.Reverses)
    (h : compareItems? l m = some o) : compareItems? m l = some o.swap := by
  induction l generalizing m with
  | nil => cases m <;> cases h <;> rfl
  | cons v l ih =>
    obtain ⟨hv, hl⟩ := List.forall_mem_cons.mp hl
    cases m with
    | nil => cases h; rfl
    | cons w m =>
      rw [compareItems?_cons] at h ⊢
      rcases h with ⟨hvw, h⟩ | ⟨hvw, hne⟩
      · exact .inl ⟨hv w _ hvw, ih hl h⟩
      · refine .inr ⟨hv w _ hvw, ?_⟩
        cases o <;> simp at hne ⊢

theorem compareContent?_swap {x y : Option Value} (hx : ∀ v, x = some v → v.Reverses)
    (h : compareContent? x y = some o) : compareContent? y x = some o.swap := by
  cases x with
  | none => cases y <;> cases h <;> rfl
  | some v =>
    cases y with
    | none => cases h; rfl
    | some w => exact hx v rfl w o h

theorem reverses (hT : Traits.Ordered) (a : Value) : a.Reverses := by
  induction a using induction_parts with
  | step a ih =>
    intro b o h
    rw [compare?_eq_some] at h ⊢
    cases h with
    | scalar h => exact .scalar h.swap
    | @leaf l order hl x y =>
      have := hT l order hl
      rw [← Std.OrientedCmp.eq_swap]
      exact .leaf hl y x
    | option t h =>
      exact .option t (compareContent?_swap (fun v hv => ih v (mem_parts_option.mpr hv)) h)
    | list t h => exact .list t (compareItems?_swap ih h)
    | set t h => exact .set t (compareItems?_swap ih h)

theorem compare?_swap (hT : Traits.Ordered) (a b : Value) :
    b.compare? a = (a.compare? b).map Ordering.swap := by
  cases h : a.compare? b with
  | some o => exact reverses hT a b o h
  | none =>
    cases h' : b.compare? a with
    | some o => cases h.symm.trans (reverses hT b a o h')
    | none => rfl

/-! ### Equality -/

theorem equalItems_of_compareItems? {l m : List Value}
    (hl : ∀ v ∈ l, ∀ w, v.compare? w = some .eq → v.equal w = true)
    (h : compareItems? l m = some .eq) : equalItems l m = true := by
  induction l generalizing m with
  | nil =>
    cases m with
    | nil => rfl
    | cons w m => cases h
  | cons v l ih =>
    obtain ⟨hv, hl⟩ := List.forall_mem_cons.mp hl
    cases m with
    | nil => cases h
    | cons w m =>
      rcases compareItems?_cons.mp h with ⟨hvw, h⟩ | ⟨-, hne⟩
      · rw [equalItems, hv w hvw, ih hl h]
        rfl
      · exact absurd rfl hne

theorem equal_of_compare? (hT : Traits.LawfulOrder) (h : a.compare? b = some .eq) :
    a.equal b = true := by
  induction a using induction_parts generalizing b with
  | step a ih =>
    rw [compare?_eq_some] at h
    generalize ho : Ordering.eq = o at h
    cases h with
    | scalar h =>
      subst ho
      exact h.equal
    | @leaf l order hl x y =>
      have hequal := ((hT l).eq_iff order hl x y).mp ho.symm
      simp [equal, hequal]
    | @option t x y _ h =>
      subst ho
      have hcontent : equalContent x y = true := by
        cases x with
        | none => cases y <;> cases h; rfl
        | some v =>
          cases y with
          | none => cases h
          | some w => exact ih v (mem_parts_option.mpr rfl) h
      simp [equal, hcontent]
    | @list t l m _ h =>
      subst ho
      have hitems : equalItems l m = true :=
        equalItems_of_compareItems? (fun v hv w => ih v hv) h
      simp [equal, hitems]
    | @set t l m _ h =>
      subst ho
      have hitems : equalItems l m = true :=
        equalItems_of_compareItems? (fun v hv w => ih v hv) h
      simp [equal, hitems]

theorem eq_of_equalItems {l m : List Value}
    (hl : ∀ v ∈ l, ∀ w o, v.equal w = true → v.compare? w = some o → o = .eq)
    (hequal : equalItems l m = true) (h : compareItems? l m = some o) : o = .eq := by
  induction l generalizing m with
  | nil =>
    cases m with
    | nil => cases h; rfl
    | cons w m => cases hequal
  | cons v l ih =>
    obtain ⟨hv, hl⟩ := List.forall_mem_cons.mp hl
    cases m with
    | nil => cases hequal
    | cons w m =>
      rw [equalItems, Bool.and_eq_true] at hequal
      rcases compareItems?_cons.mp h with ⟨-, h⟩ | ⟨hvw, -⟩
      · exact ih hl hequal.2 h
      · exact hv w o hequal.1 hvw

theorem eq_of_equal (hT : Traits.LawfulOrder) (hequal : a.equal b = true)
    (h : a.compare? b = some o) : o = .eq := by
  induction a using induction_parts generalizing b o with
  | step a ih =>
    rw [compare?_eq_some] at h
    cases h with
    | scalar h => exact h.eq_of_equal hequal
    | @leaf l order hl x y =>
      simp only [equal, beq_self_eq_true, Bool.true_and] at hequal
      exact ((hT l).eq_iff order hl x y).mpr hequal
    | @option t x y _ h =>
      simp only [equal, beq_self_eq_true, Bool.true_and] at hequal
      cases x with
      | none =>
        cases y with
        | none => cases h; rfl
        | some w => cases hequal
      | some v =>
        cases y with
        | none => cases hequal
        | some w => exact ih v (mem_parts_option.mpr rfl) hequal h
    | list t h =>
      simp only [equal, beq_self_eq_true, Bool.true_and] at hequal
      exact eq_of_equalItems (fun v hv w o => ih v hv) hequal h
    | set t h =>
      simp only [equal, beq_self_eq_true, Bool.true_and] at hequal
      exact eq_of_equalItems (fun v hv w o => ih v hv) hequal h

/-! ### Steps up -/

def Climbs (a : Value) : Prop :=
  ∀ b c o o', a.compare? b = some o → b.compare? c = some o' → o ≠ .gt → o' ≠ .gt →
    a.compare? c = some (o.then o')

theorem compareItems?_then {l m n : List Value} (hl : ∀ v ∈ l, v.Climbs)
    (hlm : compareItems? l m = some o) (hmn : compareItems? m n = some o') (ho : o ≠ .gt)
    (ho' : o' ≠ .gt) : compareItems? l n = some (o.then o') := by
  induction l generalizing m n with
  | nil =>
    cases m with
    | nil => cases hlm; exact hmn
    | cons v m =>
      cases hlm
      cases n with
      | nil =>
        cases hmn
        exact absurd rfl ho'
      | cons w n => rfl
  | cons u l ih =>
    obtain ⟨hu, hl⟩ := List.forall_mem_cons.mp hl
    cases m with
    | nil =>
      cases hlm
      exact absurd rfl ho
    | cons v m =>
      cases n with
      | nil =>
        cases hmn
        exact absurd rfl ho'
      | cons w n =>
        rw [compareItems?_cons] at hlm hmn ⊢
        rcases hlm with ⟨huv, hlm⟩ | ⟨huv, hne⟩
        · rcases hmn with ⟨hvw, hmn⟩ | ⟨hvw, hne'⟩
          · exact .inl ⟨hu v w _ _ huv hvw nofun nofun, ih hl hlm hmn⟩
          · obtain rfl := eq_lt_of_ne hne' ho'
            rw [then_lt ho]
            exact .inr ⟨hu v w _ _ huv hvw nofun nofun, nofun⟩
        · obtain rfl := eq_lt_of_ne hne ho
          have huw : u.compare? w = some .lt := by
            rcases hmn with ⟨hvw, -⟩ | ⟨hvw, -⟩
            · exact hu v w .lt .eq huv hvw nofun nofun
            · exact hu v w .lt o' huv hvw nofun ho'
          exact .inr ⟨huw, nofun⟩

theorem compareContent?_then {x y z : Option Value} (hx : ∀ v, x = some v → v.Climbs)
    (hxy : compareContent? x y = some o) (hyz : compareContent? y z = some o') (ho : o ≠ .gt)
    (ho' : o' ≠ .gt) : compareContent? x z = some (o.then o') := by
  cases x with
  | none =>
    cases y with
    | none => cases hxy; exact hyz
    | some v =>
      cases hxy
      cases z with
      | none =>
        cases hyz
        exact absurd rfl ho'
      | some w => rfl
  | some u =>
    cases y with
    | none =>
      cases hxy
      exact absurd rfl ho
    | some v =>
      cases z with
      | none =>
        cases hyz
        exact absurd rfl ho'
      | some w => exact hx u rfl v w o o' hxy hyz ho ho'

theorem climbs (hT : Traits.Ordered) (a : Value) : a.Climbs := by
  induction a using induction_parts with
  | step a ih =>
    intro b c o o' hab hbc ho ho'
    rw [compare?_eq_some] at hab hbc ⊢
    cases hab with
    | scalar hab =>
      cases hbc with
      | scalar hbc => exact .scalar (hab.trans hbc ho ho')
    | @leaf l order hl x y =>
      cases hbc with
      | leaf hl' _ z =>
        cases hl.symm.trans hl'
        have := hT l order hl
        rw [← compare_then ho ho']
        exact .leaf hl x z
    | option t hab =>
      cases hbc with
      | option _ hbc =>
        have hcontent := fun v hv => ih v (mem_parts_option.mpr hv)
        exact .option t (compareContent?_then hcontent hab hbc ho ho')
    | list t hab =>
      cases hbc with
      | list _ hbc => exact .list t (compareItems?_then ih hab hbc ho ho')
    | set t hab =>
      cases hbc with
      | set _ hbc => exact .set t (compareItems?_then ih hab hbc ho ho')

/-- The order of values is a partial order of each type, up to equality. Where equal values are not
compared, there is no order between them. -/
theorem compare?_lawful (hT : Traits.LawfulOrder) (a b c : Value) :
    (a.type ≠ b.type → a.compare? b = none) ∧
      b.compare? a = (a.compare? b).map Ordering.swap ∧
      (a.compare? b = some .eq → a.equal b = true) ∧
      (a.equal b = true → a.compare? b = some .eq ∨ a.compare? b = none) ∧
      ∀ o o', a.compare? b = some o → b.compare? c = some o' → o ≠ .gt → o' ≠ .gt →
        a.compare? c = some (if o = .lt ∨ o' = .lt then .lt else .eq) := by
  refine ⟨?_, compare?_swap hT.ordered a b, equal_of_compare? hT, ?_, ?_⟩
  · intro hne
    cases h : a.compare? b with
    | none => rfl
    | some o => exact absurd (compare?_eq_some.mp h).type_eq hne
  · intro hequal
    cases h : a.compare? b with
    | none => exact .inr rfl
    | some o =>
      rw [eq_of_equal hT hequal h]
      exact .inl rfl
  · intro o o' hab hbc ho ho'
    rw [climbs hT.ordered a b c o o' hab hbc ho ho']
    cases o with
    | lt => simp [Ordering.then]
    | eq =>
      cases o' with
      | lt | eq => simp [Ordering.then]
      | gt => exact absurd rfl ho'
    | gt => exact absurd rfl ho

end Beans.Value

namespace Beans.Workshop

attribute [local instance] traits

/-- A list of releases that comes before another one, which is equal to a third one of other builds. -/
theorem releases_compare?_lawful :
    let found (r : Value) : Value := .option (.leaf release) (some r)
    let listOf (first second : Value) : Value :=
      .list (.option (.leaf release)) [found first, found second]
    let a := listOf (releaseOf 1 7) (releaseOf 2 1)
    let b := listOf (releaseOf 1 3) (releaseOf 3 0)
    let c := listOf (releaseOf 1 9) (releaseOf 3 5)
    Traits.LawfulOrder ∧ a.compare? b = some .lt ∧ b.compare? c = some .eq ∧
      b.compare? a = some .gt ∧ b.equal c = true ∧ a.compare? c = some .lt ∧
      a.type ≠ (releaseOf 1 7).type ∧ a.compare? (releaseOf 1 7) = none := by
  intro found listOf a b c
  have hab : a.compare? b = some .lt := by decide +kernel
  have hbc : b.compare? c = some .eq := by decide +kernel
  have htype : a.type ≠ (releaseOf 1 7).type := nofun
  obtain ⟨-, hswap, -, -, hclimbs⟩ := Value.compare?_lawful lawfulOrder a b c
  obtain ⟨-, -, hequal, -, -⟩ := Value.compare?_lawful lawfulOrder b c a
  obtain ⟨hapart, -⟩ := Value.compare?_lawful lawfulOrder a (releaseOf 1 7) c
  refine ⟨lawfulOrder, hab, hbc, ?_, hequal hbc, hclimbs _ _ hab hbc nofun nofun, htype,
    hapart htype⟩
  rw [hswap, hab]
  rfl

end Beans.Workshop
