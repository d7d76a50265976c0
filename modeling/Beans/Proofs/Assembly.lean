import Beans.Proofs.DeclaredFields
import Beans.Proofs.Stateful
/-!
# Assembly of declared beans

The constructor of a declared bean takes its arguments one by one, in the order of the properties. It
fails at the first one that its property does not allow, with the offence that this one gives; if there is
none, it puts each argument into the cell of its property.
-/

set_option autoImplicit false

namespace Beans

/-! ### Empty values -/

/-- An empty text or container, or one under `Option` layers, or a layer that holds nothing. -/
inductive Value.Empty : Value → Prop where
  | string : Empty (.ofString "")
  | list (t : Ty) : Empty (.list t [])
  | set (s : Storage) (t : Ty) : Empty (.set s t [])
  | map (s : Storage) (k v : Ty) : Empty (.map s k v [])
  | nothing (t : Ty) : Empty (.option t none)
  | layer (t : Ty) {v : Value} (h : v.Empty) : Empty (.option t (some v))

namespace Value

mutual

theorem isEmpty_iff (v : Value) : v.isEmpty = true ↔ v.Empty := by
  cases v with
  | scalar s =>
    cases s with
    | string s =>
      rw [isEmpty, String.isEmpty_iff]
      constructor
      · rintro rfl
        exact .string
      · intro h
        cases h
        rfl
    | _ => exact ⟨nofun, nofun⟩
  | option t content => exact contentIsEmpty_iff t content
  | list t items =>
    rw [isEmpty, List.isEmpty_iff]
    constructor
    · rintro rfl
      exact .list t
    · intro h
      cases h
      rfl
  | set s t items =>
    rw [isEmpty, List.isEmpty_iff]
    constructor
    · rintro rfl
      exact .set s t
    · intro h
      cases h
      rfl
  | map s k t entries =>
    rw [isEmpty, List.isEmpty_iff]
    constructor
    · rintro rfl
      exact .map s k t
    · intro h
      cases h
      rfl
  | leaf _ _ => exact ⟨nofun, nofun⟩
  | bean _ _ => exact ⟨nofun, nofun⟩
termination_by structural v

theorem contentIsEmpty_iff (t : Ty) (content : Option Value) :
    contentIsEmpty content = true ↔ (Value.option t content).Empty := by
  cases content with
  | none => exact ⟨fun _ => .nothing t, fun _ => rfl⟩
  | some v =>
    refine (isEmpty_iff v).trans ⟨.layer t, ?_⟩
    intro h
    cases h
    assumption
termination_by structural content

end

end Value

/-! ### Arguments that are allowed -/

/-- The value, or null, passes the check: it is not null, and not empty either. -/
def Check.Passes : Check → Option Value → Prop
  | notNull, v => v ≠ none
  | notEmpty, v => ∃ w, v = some w ∧ ¬ w.Empty

/-- What a check that is not passed reports. -/
def Check.offence (name : String) : Option Value → MemberError
  | none => .nullValue name
  | some _ => .validation s!"{name} must not be empty"

namespace Check

variable {c : Check} {name : String} {v : Option Value}

theorem run_of_passes (name : String) (h : c.Passes v) : ∃ w, v = some w ∧ c.run name v = .ok w := by
  cases v with
  | none =>
    cases c with
    | notNull => exact absurd rfl h
    | notEmpty =>
      obtain ⟨_, hv, _⟩ := h
      cases hv
  | some w =>
    refine ⟨w, rfl, if_neg ?_⟩
    cases c with
    | notNull => nofun
    | notEmpty =>
      obtain ⟨_, hw, hfull⟩ := h
      cases hw
      intro hempty
      exact hfull ((Value.isEmpty_iff w).mp hempty)

theorem run_of_not_passes (h : ¬ c.Passes v) : c.run name v = .error (offence name v) := by
  cases v with
  | none => rfl
  | some w =>
    cases c with
    | notNull => exact absurd (Option.some_ne_none w) h
    | notEmpty =>
      have hempty : w.isEmpty = true := by
        by_contra hfull
        exact h ⟨w, rfl, fun hempty => hfull ((Value.isEmpty_iff w).mpr hempty)⟩
      exact if_pos hempty

end Check

/-! ### Arguments -/

namespace Arguments

def without (a : Arguments) (index : Nat) : Arguments :=
  { a with slots := a.slots.set index none }

variable {a : Arguments} {t : Ty} {index : Nat} {v : Option Value}

theorem take?_eq (ha : a.slots[index]? = some v) (hv : t.Admits v) :
    take? t index a = (.ok v, a.without index) := by
  unfold take?
  rw [ha]
  cases v with
  | none =>
    have hsame : a.slots.set index none = a.slots := by
      obtain ⟨hindex, hnone⟩ := List.getElem?_eq_some_iff.mp ha
      rw [← hnone, List.set_getElem_self]
    rw [without, hsame]
  | some w => exact if_pos (Ty.admits_some.mp hv)

theorem drop_without (a : Arguments) (index : Nat) :
    (a.without index).slots.drop (index + 1) = a.slots.drop (index + 1) :=
  List.drop_set_of_lt (Nat.lt_succ_self index)

end Arguments

namespace DeclaredProperty

variable {q : DeclaredProperty Ty Value} {a : Arguments} {index : Nat} {v : Option Value}

/-- The constructor takes the value, or null, for the property: what passes the check, or else anything
but null, and null as well if the field is an `Option`. -/
def Allows (q : DeclaredProperty Ty Value) (v : Option Value) : Prop :=
  match q.spec.check with
  | some check => check.Passes v
  | none => q.isNullable = false → v ≠ none

/-- What the constructor reports where a value, or null, is not allowed at a position. -/
def offence (q : DeclaredProperty Ty Value) (bean : String) (index : Nat) (v : Option Value) :
    MemberError :=
  match q.spec.check with
  | some _ => Check.offence q.name v
  | none => .nullArgument bean index

theorem take_of_allows (ha : a.slots[index]? = some v) (hv : q.type.Admits v) (h : q.Allows v) :
    ∃ w, q.stored v = some w ∧ (q.argumentUse index).take a = (.ok w, a.without index) := by
  have htake := Arguments.take?_eq ha hv
  unfold Allows at h
  unfold argumentUse
  cases hcheck : q.spec.check with
  | some check =>
    simp only [hcheck] at h
    obtain ⟨w, rfl, hrun⟩ := Check.run_of_passes q.name h
    refine ⟨if q.isNullable then .option q.type (some w) else w, ?_, ?_⟩
    · rw [stored]
      split <;> rfl
    · simp only [ArgumentUse.take]
      rw [Stateful.bind_of_ok htake, hrun, Stateful.bind_of_ok (Stateful.ofExcept_ok w _)]
      rfl
  | none =>
    simp only [hcheck] at h
    cases hnull : q.isNullable with
    | true =>
      refine ⟨.option q.type v, stored_of_isNullable hnull, ?_⟩
      simp only [if_true, ArgumentUse.take]
      rw [Stateful.bind_of_ok htake]
      rfl
    | false =>
      obtain ⟨w, rfl⟩ := Option.ne_none_iff_exists'.mp (h hnull)
      refine ⟨w, stored_of_not_isNullable hnull, ?_⟩
      simp only [Bool.false_eq_true, if_false, ArgumentUse.take, Arguments.take]
      rw [Stateful.bind_of_ok htake]
      rfl

theorem take_of_not_allows (ha : a.slots[index]? = some v) (hv : q.type.Admits v) (h : ¬ q.Allows v) :
    ((q.argumentUse index).take a).1 = .error (q.offence a.bean index v) := by
  have htake := Arguments.take?_eq ha hv
  unfold Allows at h
  unfold argumentUse offence
  cases hcheck : q.spec.check with
  | some check =>
    simp only [hcheck] at h
    simp only [ArgumentUse.take]
    rw [Stateful.bind_of_ok htake, Check.run_of_not_passes h,
      Stateful.bind_of_error (Stateful.ofExcept_error _ _)]
  | none =>
    simp only [hcheck] at h
    obtain ⟨hnull, hv⟩ := Classical.not_imp.mp h
    cases not_not.mp hv
    simp only [hnull, Bool.false_eq_true, if_false, ArgumentUse.take, Arguments.take]
    rw [Stateful.bind_of_ok htake]
    rfl

end DeclaredProperty

/-! ### Beans -/

abbrev Given := List (DeclaredProperty Ty Value × Option Value)

/-- The bean, after each property has put what it is given into its cell. -/
def Bean.holding (b : Bean) (given : Given) : Bean :=
  b.setCells (given.map fun x => (x.1.cell, x.1.stored x.2))

namespace Bean

variable {b : Bean} {d : ResolvedDeclaration} {given : Given}

theorem type_holding (b : Bean) (given : Given) : (b.holding given).type = b.type :=
  type_setCells b _

theorem cell?_holding {q : DeclaredProperty Ty Value} {v : Option Value}
    (hgiven : given.map Prod.fst = d.properties) (hx : (q, v) ∈ given) :
    (b.holding given).cell? q.cell = q.stored v := by
  have hcells : ((given.map fun x => (x.1.cell, x.1.stored x.2)).map Prod.fst).Nodup := by
    have hnodup := d.nodup_cells
    rw [← hgiven, List.map_map] at hnodup
    rw [List.map_map]
    exact hnodup
  exact cell?_setCells_of_mem hcells (List.mem_map_of_mem hx)

theorem cell?_holding_of_other {x : Nat × DeclaredField Ty Value}
    (hgiven : given.map Prod.fst = d.properties) (hx : x ∈ d.others) :
    (b.holding given).cell? x.1 = b.cell? x.1 := by
  apply cell?_setCells_of_not_mem
  rw [List.map_map, List.mem_map]
  rintro ⟨⟨q, v⟩, hq, hsame⟩
  have hmem : q ∈ d.properties := by
    rw [← hgiven]
    exact List.mem_map_of_mem hq
  exact BeanDeclaration.others_ne_cell hx hmem hsame

end Bean

namespace OutlineConstructor

open DeclaredProperty

variable {initial : Bean} {a : Arguments}

def usesFrom (first : Nat) (ps : List (DeclaredProperty Ty Value)) : List (Nat × ArgumentUse Ty) :=
  (ps.zipIdx first).map fun (q, index) => (q.cell, q.argumentUse index)

theorem fill_cons (b : Bean) (cell : Nat) (use : ArgumentUse Ty) (uses : List (Nat × ArgumentUse Ty)) :
    fill b ((cell, use) :: uses) = use.take >>= fun v => fill (b.setCell cell (some v)) uses := by
  simp only [fill, List.foldlM_cons, bind_assoc, pure_bind]

section Steps

variable {first : Nat} {q : DeclaredProperty Ty Value} {ps : List (DeclaredProperty Ty Value)}
  {v : Option Value} {vs : List (Option Value)}

theorem getElem?_of_drop (ha : a.slots.drop first = v :: vs) : a.slots[first]? = some v := by
  rw [← Nat.add_zero first, ← List.getElem?_drop, ha]
  rfl

theorem fill_step (initial : Bean) (ps : List (DeclaredProperty Ty Value))
    (ha : a.slots.drop first = v :: vs) (hv : q.type.Admits v) (h : q.Allows v) :
    fill initial (usesFrom first (q :: ps)) a =
        fill (initial.setCell q.cell (q.stored v)) (usesFrom (first + 1) ps) (a.without first) ∧
      (a.without first).slots.drop (first + 1) = vs := by
  obtain ⟨w, hstored, htake⟩ := take_of_allows (getElem?_of_drop ha) hv h
  constructor
  · rw [hstored]
    change fill initial ((q.cell, q.argumentUse first) :: usesFrom (first + 1) ps) a = _
    rw [fill_cons, Stateful.bind_of_ok htake]
  · rw [Arguments.drop_without, ← List.drop_drop, ha]
    rfl

theorem fill_step_of_not_allows (ha : a.slots.drop first = v :: vs) (hv : q.type.Admits v)
    (h : ¬ q.Allows v) :
    (fill initial (usesFrom first (q :: ps)) a).1 = .error (q.offence a.bean first v) := by
  have htake := take_of_not_allows (getElem?_of_drop ha) hv h
  change (fill initial ((q.cell, q.argumentUse first) :: usesFrom (first + 1) ps) a).1 = _
  rw [fill_cons, Stateful.bind_of_error (Prod.ext htake rfl)]

end Steps

theorem fill_of_allows {given : Given} {first : Nat} (ha : a.slots.drop first = given.map Prod.snd)
    (hadmits : ∀ x ∈ given, x.1.type.Admits x.2) (hallows : ∀ x ∈ given, x.1.Allows x.2) :
    (fill initial (usesFrom first (given.map Prod.fst)) a).1 =
      .ok (initial.holding given) := by
  induction given generalizing first a initial with
  | nil => rfl
  | cons x given ih =>
    obtain ⟨hx, hgiven⟩ := List.forall_mem_cons.mp hadmits
    obtain ⟨hallowed, hrest⟩ := List.forall_mem_cons.mp hallows
    obtain ⟨hstep, hleft⟩ := fill_step initial (given.map Prod.fst) ha hx hallowed
    rw [List.map_cons, hstep, ih hleft hgiven hrest]
    rfl

/-- The first argument that is not allowed is the one that is reported. -/
theorem fill_of_offence {given : Given} {q : DeclaredProperty Ty Value} {v : Option Value}
    {first i : Nat} (ha : a.slots.drop first = given.map Prod.snd)
    (hadmits : ∀ x ∈ given, x.1.type.Admits x.2) (hi : given[i]? = some (q, v))
    (hbefore : ∀ j x, j < i → given[j]? = some x → x.1.Allows x.2) (h : ¬ q.Allows v) :
    (fill initial (usesFrom first (given.map Prod.fst)) a).1 =
      .error (q.offence a.bean (first + i) v) := by
  induction given generalizing first i a initial with
  | nil => cases hi
  | cons x given ih =>
    obtain ⟨hx, hrest⟩ := List.forall_mem_cons.mp hadmits
    cases i with
    | zero =>
      cases hi
      exact fill_step_of_not_allows ha hx h
    | succ i =>
      have hallowed : x.1.Allows x.2 := hbefore 0 x (Nat.zero_lt_succ i) rfl
      have hbefore : ∀ j y, j < i → given[j]? = some y → y.1.Allows y.2 := fun j y hj =>
        hbefore (j + 1) y (Nat.succ_lt_succ hj)
      obtain ⟨hstep, hleft⟩ := fill_step initial (given.map Prod.fst) ha hx hallowed
      rw [List.map_cons, hstep, ih hleft hrest hi hbefore, Nat.add_assoc, Nat.add_comm 1]
      rfl

end OutlineConstructor

end Beans
