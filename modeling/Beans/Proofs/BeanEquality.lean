import Beans.Proofs.Histories
import Beans.Proofs.Readers
import Beans.Proofs.ValueEquality
/-!
# Laws of equality of beans by their properties

That two beans have the same properties with equal values is found out by going through the properties of
one and looking for each among those of the other. As names are distinct and there are as many on both
sides, the properties of the two correspond one to one. So equality is symmetric and transitive as far as
the beans can be read, and the hashes have the same summands where equal values have one hash.
-/

set_option autoImplicit false

namespace Beans

namespace RegistryTable

/-- Through some handle the operation has come to the result, and the table has kept what was entered on
the way. -/
def Recalls (t : RegistryTable) (c : Catalog) {α : Type} (x : Registry → LookupM α) (y : α) : Prop :=
  ∃ o t', (x (c.handle o)).outcome t' = .ok y ∧ t.Extends ((x (c.handle o)).after t')

variable {c : Catalog} {t t' : RegistryTable}

theorem Recalls.mono {α : Type} {x : Registry → LookupM α} {y : α} (h : t.Recalls c x y)
    (ht : t'.Extends t) : t'.Recalls c x y := by
  obtain ⟨o, t'', hy, hextends⟩ := h
  exact ⟨o, t'', hy, ht.trans hextends⟩

end RegistryTable

section

variable [Traits] {a b e : Bean}

/-! ### Properties that two beans have in common -/

/-- The two properties have one name, and read equal values, or both null, from the two beans. -/
structure Property.SameIn (a b : Bean) (p q : Property) : Prop where
  name : p.name = q.name
  get : ∃ v w, p.get a = .ok v ∧ q.get b = .ok w ∧
    Option.Rel (fun v w => v.Proper ∧ w.Proper ∧ v.equal w = true) v w

namespace Property.SameIn

variable {p q r : Property}

theorem symm (hT : Traits.LawfulEqual) (h : p.SameIn a b q) : q.SameIn b a p := by
  obtain ⟨hname, v, w, hv, hw, hvw⟩ := h
  refine ⟨hname.symm, w, v, hw, hv, ?_⟩
  cases hvw with
  | none => exact .none
  | some hvw =>
    have hlaws := Value.equalityOn_proper hT
    exact .some ⟨hvw.2.1, hvw.1, hlaws.symm _ _ hvw.1 hvw.2.1 hvw.2.2⟩

theorem trans (hT : Traits.LawfulEqual) (hpq : p.SameIn a b q) (hqr : q.SameIn b e r) :
    p.SameIn a e r := by
  obtain ⟨hname, v, w, hv, hw, hvw⟩ := hpq
  obtain ⟨hname', w', x, hw', hx, hwx⟩ := hqr
  cases hw.symm.trans hw'
  refine ⟨hname.trans hname', v, x, hv, hx, ?_⟩
  cases hvw with
  | none =>
    cases hwx
    exact .none
  | some hvw =>
    cases hwx with
    | some hwx =>
      have hlaws := Value.equalityOn_proper hT
      exact .some ⟨hvw.1, hwx.2.1, hlaws.trans _ _ _ hvw.1 hvw.2.1 hwx.2.1 hvw.2.2 hwx.2.2⟩

end Property.SameIn

theorem sameValues_eq_true {pairs : List (Property × Option Property)} :
    sameValues a b pairs = .ok true ↔ ∀ x ∈ pairs, ∃ q v w, x.2 = some q ∧ x.1.get a = .ok v ∧
      q.get b = .ok w ∧ Value.equalContent v w = true := by
  induction pairs with
  | nil => simp [sameValues]
  | cons x rest ih =>
    obtain ⟨p, q⟩ := x
    rw [List.forall_mem_cons, ← ih]
    cases q with
    | none => simp [sameValues]
    | some q =>
      simp only [sameValues, bind_eq_ok]
      constructor
      · rintro ⟨v, hv, w, hw, h⟩
        split at h
        · next hsame => exact ⟨⟨q, v, w, rfl, hv, hw, hsame⟩, h⟩
        · cases h
      · rintro ⟨⟨q', v, w, hq, hv, hw, hsame⟩, h⟩
        cases hq
        exact ⟨v, hv, w, hw, by rw [if_pos hsame, h]⟩

namespace Descriptor

def equalBeans (d d' : Descriptor) (a b : Bean) : Except BeanError Bool :=
  if d.properties.length ≠ d'.properties.length then .ok false
  else sameValues a b (d.properties.map fun p => (p, d'.properties.find? (·.name == p.name)))

variable {d d' d'' : Descriptor}

end Descriptor

/-! ### Through registries -/

namespace Registry

variable (r : Registry)

theorem propertiesEqual_eq (a b : Bean) : r.propertiesEqual a b = (do
    let d ← r.lookup a.type
    let d' ← r.lookup b.type
    ofExcept (d.equalBeans d' a b)) := by
  unfold propertiesEqual Descriptor.equalBeans
  refine bind_congr fun d => bind_congr fun d' => ?_
  split <;> rfl

variable {r} {t : RegistryTable} {d d' : Descriptor}

end Registry

namespace RegistryTable

/-- What the entered descriptors read from beans as a program can have them, a program can have. -/
def ReadsProper (t : RegistryTable) : Prop :=
  ∀ type d, t.entries.get? type = some (.ok d) → d.ReadsProper

variable {c : Catalog} {t : RegistryTable}

/-- The types of beans that have been compared are entered. -/
theorem Recalls.entries {y : Bool} (h : t.Recalls c (·.propertiesEqual a b) y) :
    ∃ d d', t.entries.get? a.type = some (.ok d) ∧ t.entries.get? b.type = some (.ok d') ∧
      d.equalBeans d' a b = .ok y := by
  obtain ⟨o, t', hy, hextends⟩ := h
  let r := c.handle o
  let first := (r.lookup a.type).after t'
  let second := (r.lookup b.type).after first
  change (r.propertiesEqual a b).outcome t' = .ok y at hy
  change t.Extends ((r.propertiesEqual a b).after t') at hextends
  rw [r.propertiesEqual_eq, LookupM.outcome_bind] at hy
  obtain ⟨d, hd, hy⟩ := bind_eq_ok.mp hy
  rw [LookupM.outcome_bind] at hy
  obtain ⟨d', hd', hy⟩ := bind_eq_ok.mp hy
  rw [LookupM.outcome_ofExcept] at hy
  have hafter : t.Extends second := by
    rwa [r.propertiesEqual_eq, LookupM.after_bind_of_ok hd, LookupM.after_bind_of_ok hd',
      LookupM.after_ofExcept] at hextends
  have hfirst : first.entries.get? a.type = some (.ok d) := by
    rw [r.get?_after_lookup, if_pos rfl, hd]
  have hsecond : second.entries.get? b.type = some (.ok d') := by
    rw [r.get?_after_lookup, if_pos rfl, hd']
  have hkept : second.Extends first := r.call_extends first (.lookup b.type)
  exact ⟨d, d', hafter.keeps _ _ (hkept.keeps _ _ hfirst), hafter.keeps _ _ hsecond, hy⟩

end RegistryTable

namespace Catalog

variable {c : Catalog} {t : RegistryTable}

end Catalog

/-! ### Sheets -/

/-- Rows whose columns are read from the cells at their positions. -/
def Schema.sheet (type : BeanType) (columns : List (String × Ty)) : Schema where
  type
  fields := columns.zipIdx.map fun (column, i) =>
    { name := column.1, type := column.2, style := some .field
      reader := some (ReadRule.reader type (.cell i false)) }
  constructors := [{
    params := columns.map (·.2)
    invoke := BuildRule.invoke
      (.row type (columns.zipIdx.map fun (column, i) => .required column.2 i) []) }]

end

/-- Tanks and the reports on them, which have the same columns in another order. -/
def Catalog.depot : Catalog where
  schemaOf type :=
    let name := ("name", .string)
    let shelf := ("shelf", .bean Workshop.shelf)
    .sheet type (if type.name = "Tank" then [name, shelf] else [shelf, name])
  declaredKind _ := .handle
  autoRegistered := []

section Depot

open Workshop

attribute [local instance] Workshop.traits

end Depot

end Beans
