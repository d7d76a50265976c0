import Beans.Proofs.BeanEquality
import Beans.Proofs.ValueOrder
/-!
# Laws of comparators

A comparator puts null first and counts values without an order as equal. So it can be read from both sides,
and no bean is before itself. Where values have an order it is that of the values, and two steps up make one.
This survives one value without an order, as the orders on both sides of a value that is missing one have to
agree with the third. It fails exactly where the middle one of three values has no order with either of the
others and these are apart, as a number that is no number between two numbers.

What two beans compare as does not change while a registry is in use: once it was found out, whatever is
entered later, it is found out again.
-/

set_option autoImplicit false

namespace Beans

/-! ### Orders along three things -/

section Orders

variable {α : Type} {order : α → α → Ordering} {a b c : α}

/-- What is not after one thing that is not after another is not after that one, and what is equal to an
equal one is equal. -/
structure OrdersAlong (order : α → α → Ordering) (a b c : α) : Prop where
  not_after : order a b ≠ .gt → order b c ≠ .gt → order a c ≠ .gt
  equal : order a b = .eq → order b c = .eq → order a c = .eq

namespace OrdersAlong

theorem of_eq (h : order a c = .eq) : OrdersAlong order a b c := by
  refine ⟨fun _ _ => ?_, fun _ _ => h⟩
  rw [h]
  exact nofun

theorem of_second (h : order a c = order b c) (hne : order b c ≠ .eq) : OrdersAlong order a b c := by
  refine ⟨fun _ hbc => ?_, fun _ hbc => absurd hbc hne⟩
  rwa [h]

theorem of_first (h : order a c = order a b) (hne : order a b ≠ .eq) : OrdersAlong order a b c := by
  refine ⟨fun hab _ => ?_, fun hab _ => absurd hab hne⟩
  rwa [h]

theorem of_then (h : order a b ≠ .gt → order b c ≠ .gt → order a c = (order a b).then (order b c)) :
    OrdersAlong order a b c := by
  constructor
  · intro hab hbc
    rw [h hab hbc]
    cases ho : order a b with
    | lt => exact nofun
    | eq => exact hbc
    | gt => exact absurd ho hab
  · intro hab hbc
    rw [h (by simp [hab]) (by simp [hbc]), hab]
    exact hbc

end OrdersAlong

theorem swap_ne_gt {o : Ordering} : o.swap ≠ .gt ↔ o ≠ .lt := by
  cases o <;> simp

/-- Read the other way, an order is one along the things in turn. -/
theorem ordersAlong_swap (hswap : ∀ a b, order b a = (order a b).swap) :
    OrdersAlong (fun a b => (order a b).swap) a b c ↔ OrdersAlong order c b a := by
  simp only [← hswap]
  constructor
  · intro h
    refine ⟨fun hcb hba => h.not_after hba hcb, fun hcb hba => h.equal hba hcb⟩
  · intro h
    refine ⟨fun hba hcb => h.not_after hcb hba, fun hba hcb => h.equal hcb hba⟩

end Orders

/-! ### Values in the middle -/

namespace Value

variable [Traits] {a b c : Value} {o : Ordering}

structure Obscures (b a c : Value) : Prop where
  left : a.compare? b = none
  right : b.compare? c = none
  apart : ∃ o, a.compare? c = some o ∧ o ≠ .eq

theorem Obscures.symm (hT : Traits.Ordered) (h : b.Obscures a c) : b.Obscures c a := by
  obtain ⟨o, ho, hne⟩ := h.apart
  refine ⟨?_, ?_, o.swap, ?_, ?_⟩
  · rw [compare?_swap hT, h.right]
    rfl
  · rw [compare?_swap hT, h.left]
    rfl
  · rw [compare?_swap hT, ho]
    rfl
  · cases o <;> simp at hne ⊢

theorem compare?_of_swap (hT : Traits.Ordered) (h : a.compare? b = some o) :
    b.compare? a = some o.swap := by
  rw [compare?_swap hT, h]
  rfl

/-- A value that two others have an order with is on one side of both, if they have no order. -/
theorem eq_of_compare?_eq_none (hT : Traits.Ordered) {o' : Ordering} (hab : a.compare? b = none)
    (hbc : b.compare? c = some o) (hac : a.compare? c = some o') : o' = o ∧ o ≠ .eq := by
  have hnone {o : Ordering} (h : a.compare? b = some o) : False := by cases hab.symm.trans h
  have hba : o = .gt ∨ o' = .lt := by
    by_contra hneither
    obtain ⟨ho, ho'⟩ := not_or.mp hneither
    have hca := compare?_of_swap hT hac
    have hstep := climbs hT b c a o o'.swap hbc hca ho (swap_ne_gt.mpr ho')
    exact hnone (compare?_of_swap hT hstep)
  have hab' : o' = .gt ∨ o = .lt := by
    by_contra hneither
    obtain ⟨ho', ho⟩ := not_or.mp hneither
    have hcb := compare?_of_swap hT hbc
    exact hnone (climbs hT a c b o' o.swap hac hcb ho' (swap_ne_gt.mpr ho))
  rcases hba with rfl | rfl
  · rcases hab' with rfl | h
    · exact ⟨rfl, nofun⟩
    · cases h
  · rcases hab' with h | rfl
    · cases h
    · exact ⟨rfl, nofun⟩

end Value

/-! ### What queries find -/

section Found

variable [Traits] {v w x : Option Value}

theorem compareFound_swap (hT : Traits.Ordered) (v w : Option Value) :
    compareFound w v = (compareFound v w).swap := by
  cases v with
  | none => cases w <;> rfl
  | some a =>
    cases w with
    | none => rfl
    | some b =>
      simp only [compareFound, Value.compare?_swap hT a b]
      cases a.compare? b <;> rfl

theorem compareFound_self (hT : Traits.Ordered) (v : Option Value) : compareFound v v = .eq := by
  have hswap := compareFound_swap hT v v
  cases h : compareFound v v with
  | eq => rfl
  | lt | gt =>
    rw [h] at hswap
    cases hswap

def ObscuresFound (w v x : Option Value) : Prop :=
  ∃ a b c, v = some a ∧ w = some b ∧ x = some c ∧ b.Obscures a c

theorem ObscuresFound.symm (hT : Traits.Ordered) (h : ObscuresFound w v x) : ObscuresFound w x v := by
  obtain ⟨a, b, c, hv, hw, hx, hobscures⟩ := h
  exact ⟨c, b, a, hx, hw, hv, hobscures.symm hT⟩

theorem compareFound_of_some {a b : Value} {o : Ordering} (h : a.compare? b = some o) :
    compareFound (some a) (some b) = o :=
  congrArg (·.getD .eq) h

theorem compareFound_of_none {a b : Value} (h : a.compare? b = none) :
    compareFound (some a) (some b) = .eq :=
  congrArg (·.getD .eq) h

theorem ordersAlong_some (hT : Traits.Ordered) {a b c : Value} :
    OrdersAlong compareFound (some a) (some b) (some c) ↔ ¬ b.Obscures a c := by
  constructor
  · rintro h ⟨hab, hbc, o, hac, hne⟩
    have heq := h.equal (compareFound_of_none hab) (compareFound_of_none hbc)
    exact hne ((compareFound_of_some hac).symm.trans heq)
  · intro h
    cases hac : a.compare? c with
    | none => exact .of_eq (compareFound_of_none hac)
    | some o =>
      have hac' := compareFound_of_some hac
      cases hab : a.compare? b with
      | none =>
        cases hbc : b.compare? c with
        | none =>
          have ho : o = .eq := by_contra fun hne => h ⟨hab, hbc, o, hac, hne⟩
          exact .of_eq (hac'.trans ho)
        | some o' =>
          obtain ⟨rfl, hne⟩ := Value.eq_of_compare?_eq_none hT hab hbc hac
          have hbc' := compareFound_of_some hbc
          exact .of_second (hac'.trans hbc'.symm) (hbc'.trans_ne hne)
      | some o' =>
        have hab' := compareFound_of_some hab
        cases hbc : b.compare? c with
        | none =>
          have hcb : c.compare? b = none := by
            rw [Value.compare?_swap hT, hbc]
            rfl
          obtain ⟨hsame, hne⟩ := Value.eq_of_compare?_eq_none hT hcb (Value.compare?_of_swap hT hab)
            (Value.compare?_of_swap hT hac)
          obtain rfl := Ordering.swap_inj.mp hsame
          refine .of_first (hac'.trans hab'.symm) (hab'.trans_ne ?_)
          rintro rfl
          exact hne rfl
        | some o'' =>
          have hbc' := compareFound_of_some hbc
          refine .of_then ?_
          rw [hab', hbc', hac']
          intro ho' ho''
          exact Option.some.inj (hac.symm.trans (Value.climbs hT a b c o' o'' hab hbc ho' ho''))

theorem ordersAlong_of_null (h : v = none ∨ w = none ∨ x = none) :
    OrdersAlong compareFound v w x := by
  rcases h with rfl | rfl | rfl
  · cases w <;> cases x <;> constructor <;> simp [compareFound]
  · cases v <;> cases x <;> constructor <;> simp [compareFound]
  · cases v <;> cases w <;> constructor <;> simp [compareFound]

theorem ordersAlong_compareFound (hT : Traits.Ordered) :
    OrdersAlong compareFound v w x ↔ ¬ ObscuresFound w v x := by
  constructor
  · rintro h ⟨a, b, c, rfl, rfl, rfl, hobscures⟩
    exact (ordersAlong_some hT).mp h hobscures
  · intro h
    cases v with
    | none => exact ordersAlong_of_null (.inl rfl)
    | some a =>
      cases w with
      | none => exact ordersAlong_of_null (.inr (.inl rfl))
      | some b =>
        cases x with
        | none => exact ordersAlong_of_null (.inr (.inr rfl))
        | some c => exact (ordersAlong_some hT).mpr fun hobscures => h ⟨a, b, c, rfl, rfl, rfl, hobscures⟩

end Found

/-! ### Comparators -/

namespace Registry

variable [Traits] (r : Registry) (q : Query) (isAscending : Bool) (t : RegistryTable)

theorem result_comparator (a b : Bean) : (r.comparator q isAscending a b t).result.1 =
    if isAscending then compareFound (r.found q a t).result.1 (r.found q b t).result.1
    else (compareFound (r.found q a t).result.1 (r.found q b t).result.1).swap := by
  have hsecond : (r.found q b (r.found q a t).result.2).result.1 = (r.found q b t).result.1 := by
    have hfirst : r.LookupsAgree t (r.found q a t).result.2 :=
      (ThroughLookups.found q a).agrees_after fun _ => rfl
    exact ((ThroughLookups.found q b).result_eq_of_agree hfirst).symm
  rw [← hsecond]
  rfl

/-- The order that a comparator gives to beans. -/
theorem comparator_orders (hT : Traits.Ordered) (a b c : Bean) :
    let order x y := (r.comparator q isAscending x y t).result.1
    let value x := (r.found q x t).result.1
    order b a = (order a b).swap ∧ order a a = .eq ∧
      (OrdersAlong order a b c ↔ ¬ ObscuresFound (value b) (value a) (value c)) ∧
      ∀ t', t'.Extends (r.comparator q isAscending a b t).result.2 →
        (r.comparator q isAscending a b t').result = (order a b, t') := by
  intro order value
  have hrepeats (t' : RegistryTable)
      (ht' : t'.Extends (r.comparator q isAscending a b t).result.2) :
      (r.comparator q isAscending a b t').result = (order a b, t') :=
    (ThroughLookups.comparator q isAscending a b).repeats ht'
  let ascending x y := compareFound (value x) (value y)
  have hswap (x y : Bean) : ascending y x = (ascending x y).swap := compareFound_swap hT _ _
  have hself (x : Bean) : ascending x x = .eq := compareFound_self hT _
  have halong (a b c : Bean) :
      OrdersAlong ascending a b c ↔ ¬ ObscuresFound (value b) (value a) (value c) := by
    rw [← ordersAlong_compareFound hT]
    exact ⟨fun h => ⟨h.not_after, h.equal⟩, fun h => ⟨h.not_after, h.equal⟩⟩
  cases isAscending with
  | true =>
    have horder : order = ascending := by
      funext x y
      exact r.result_comparator q true t x y
    rw [horder]
    clear_value order
    subst horder
    exact ⟨hswap a b, hself a, halong a b c, hrepeats⟩
  | false =>
    have horder : order = fun x y => (ascending x y).swap := by
      funext x y
      exact r.result_comparator q false t x y
    clear_value order
    subst horder
    refine ⟨congrArg Ordering.swap (hswap a b), congrArg Ordering.swap (hself a), ?_, hrepeats⟩
    rw [ordersAlong_swap hswap, halong]
    exact not_congr ⟨ObscuresFound.symm hT, ObscuresFound.symm hT⟩

end Registry

/-- Tanks with a level, of some release. -/
def Catalog.tanks : Catalog where
  schemaOf type := .sheet type [("level", .float .double), ("release", .leaf Workshop.release)]
  declaredKind _ := .handle
  autoRegistered := []

section Tanks

open Workshop

attribute [local instance] Workshop.traits

/-- Tanks of two builds of one release, and of the next release. -/
theorem Catalog.tanks_comparator_orders :
    let tank (release : Value) : Bean := ⟨⟨"depot", "Tank", .row⟩, [none, some release]⟩
    let a := tank (releaseOf 1 7)
    let b := tank (releaseOf 1 3)
    let c := tank (releaseOf 2 0)
    let compared x y := (tanks.handle {}).comparator (.property "release") true x y
    let order x y := (compared x y ∅).result.1
    Traits.Ordered ∧ order a b = .eq ∧ order b c = .lt ∧ order c b = .gt ∧ order c c = .eq ∧
      OrdersAlong order a b c ∧ order a c = .lt ∧
      (compared a b (compared a b ∅).result.2).result = (.eq, (compared a b ∅).result.2) := by
  intro tank a b c compared order
  have hab : order a b = .eq := by decide +kernel
  have hbc : order b c = .lt := by decide +kernel
  have hac : order a c = .lt := by decide +kernel
  have hlaws (x y z : Bean) := (tanks.handle {}).comparator_orders (.property "release") true ∅
    lawfulOrder.ordered x y z
  obtain ⟨-, -, halong, hrepeats⟩ := hlaws a b c
  obtain ⟨hswap, -, -, -⟩ := hlaws b c a
  obtain ⟨-, hself, -, -⟩ := hlaws c a b
  have hclear : OrdersAlong order a b c := by
    refine halong.mpr ?_
    rintro ⟨v, w, x, hv, hw, -, hobscures⟩
    have hv' : v = releaseOf 1 7 := (Option.some.inj hv).symm
    have hw' : w = releaseOf 1 3 := (Option.some.inj hw).symm
    subst hv' hw'
    cases hobscures.left
  have hcb : order c b = .gt := by
    change order c b = (order b c).swap at hswap
    rw [hswap, hbc]
    rfl
  refine ⟨lawfulOrder.ordered, hab, hbc, hcb, hself, hclear, hac, ?_⟩
  exact (hrepeats _ (.refl _)).trans (congrArg (·, _) hab)

/-- A tank at two is equal to one with a broken gauge, and that to one at one. -/
theorem Catalog.tanks_not_ordered :
    let tank (level : Nat) : Bean :=
      ⟨⟨"depot", "Tank", .row⟩, [some (.scalar (.float .double level)), none]⟩
    let one := tank 0x3ff0000000000000
    let two := tank 0x4000000000000000
    let broken := tank 0x7ff8000000000000
    let order x y := ((tanks.handle {}).comparator (.property "level") true x y ∅).result.1
    order two broken = .eq ∧ order broken one = .eq ∧ order two one = .gt ∧
      ¬ OrdersAlong order two broken one := by
  intro tank one two broken order
  have hbroken : order two broken = .eq := by decide +kernel
  have hone : order broken one = .eq := by decide +kernel
  have htwo : order two one = .gt := by decide +kernel
  refine ⟨hbroken, hone, htwo, fun h => ?_⟩
  cases (h.equal hbroken hone).symm.trans htwo

end Tanks

end Beans
