import Beans.Declaration.Reading
import Beans.Declaration.Schema
import Beans.Proofs.Cells
import Beans.Proofs.Coercion
import Beans.Proofs.Lookup
/-!
# Fields of declared beans

Each property of a declared bean stands in a cell of its own. The cell of a field that may be null holds
an `Option`, that of another one the value itself, and a wrapped property shows an `Option` in either
case: which is why the reading of a declaration refuses this style where the field is none.
-/

set_option autoImplicit false

namespace Beans

/-! ### Fields that fit what is declared of them -/

section Fits

variable {τ φ α : Type}

/-- A style that makes sense only for a field that may be null is declared of no other. -/
def DeclaredField.StyleFits (f : DeclaredField τ α) : Prop :=
  ∀ spec, f.spec = some spec → spec.getStyle.needsOption = true → f.isNullable = true

def BeanDeclaration.StylesFit (d : BeanDeclaration τ φ α) : Prop :=
  ∀ f ∈ d.fields, f.StyleFits

/-- The fields that are said to be true or false are of the type that is. -/
def BeanDeclaration.BoolsFit (d : BeanDeclaration τ φ α) (bool : τ) : Prop :=
  ∀ f ∈ d.fields, f.isBool = true → f.type = bool

end Fits

namespace Declaration

/-- What the reading of a field makes of it: the field is a property if its attributes are those of one,
and a style that needs an `Option` has one. -/
theorem ItemField.read_eq_ok {item : ItemField} {f : DeclaredField String String}
    (h : item.read = .ok f) :
    f.ident = item.name ∧ (f.isBool = true → f.type = "bool") ∧ f.StyleFits ∧
      ∃ options, PropertyOptions.read item.attributes = .ok options ∧ f.spec = options.map (·.spec) := by
  unfold ItemField.read at h
  obtain ⟨⟨form, text⟩, _, h⟩ := bind_eq_ok.mp h
  obtain ⟨options, hoptions, h⟩ := bind_eq_ok.mp h
  cases options with
  | none =>
    cases h
    exact ⟨rfl, of_decide_eq_true, nofun, none, hoptions, rfl⟩
  | some o =>
    cases hcontent : form.optionContent? with
    | some content =>
      simp only [hcontent] at h
      cases h
      exact ⟨rfl, of_decide_eq_true, fun _ _ _ => rfl, some o, hoptions, rfl⟩
    | none =>
      simp only [hcontent] at h
      split at h
      · cases h
      · rename_i hnot
        cases h
        refine ⟨rfl, of_decide_eq_true, ?_, some o, hoptions, rfl⟩
        intro spec hspec hneeds
        cases hspec
        exact absurd hneeds hnot

/-- What the reading of an item goes through: its attributes, its fields, and last the names. -/
theorem Item.read_eq_ok {item : Item} {d : TextDeclaration} (h : item.read = .ok d) :
    (∃ o, BeanOptions.read item.attributes = .ok o ∧ d.derived = o.derived) ∧
      List.Forall₂ (fun written f => ItemField.read written = .ok f) item.fields d.fields ∧
      ∀ x ∈ d.derived, x.name ∉ d.properties.map (·.name) := by
  unfold Item.read at h
  simp only at h
  split at h
  · cases h
  split at h
  · cases h
  obtain ⟨o, ho, h⟩ := bind_eq_ok.mp h
  obtain ⟨fields, hfields, h⟩ := bind_eq_ok.mp h
  split at h
  · cases h
  · rename_i hnames
    cases h
    refine ⟨⟨o, ho, rfl⟩, mapM_eq_ok_iff.mp hfields, fun x hx hmem => hnames ?_⟩
    obtain ⟨q, hq, hname⟩ := List.mem_map.mp hmem
    exact List.any_eq_true.mpr ⟨x, hx, List.any_eq_true.mpr ⟨q, hq, beq_iff_eq.mpr hname⟩⟩

theorem Item.exists_of_read {item : Item} {d : TextDeclaration} (h : item.read = .ok d)
    {f : DeclaredField String String} (hf : f ∈ d.fields) :
    ∃ written, ItemField.read written = .ok f := by
  obtain ⟨-, hfields, -⟩ := Item.read_eq_ok h
  obtain ⟨i, hi⟩ := List.mem_iff_getElem?.mp hf
  obtain ⟨written, _, hread⟩ := exists_getElem?_left hfields hi
  exact ⟨written, hread⟩

/-- The reading of a declaration makes sure that its styles fit. -/
theorem Item.stylesFit_of_read {item : Item} {d : TextDeclaration} (h : item.read = .ok d) :
    d.StylesFit := by
  intro f hf
  obtain ⟨_, hread⟩ := Item.exists_of_read h hf
  exact (ItemField.read_eq_ok hread).2.2.1

theorem Item.boolsFit_of_read {item : Item} {d : TextDeclaration} (h : item.read = .ok d) :
    d.BoolsFit "bool" := by
  intro f hf
  obtain ⟨_, hread⟩ := Item.exists_of_read h hf
  exact (ItemField.read_eq_ok hread).2.1

end Declaration

namespace Scope

variable {s : Scope} {t : Declaration.TextDeclaration} {d : ResolvedDeclaration}

theorem resolveField_eq_some {written : DeclaredField String String} {f : DeclaredField Ty Value}
    (h : s.resolveField written = some f) :
    s.type? written.type = some f.type ∧ f.ident = written.ident ∧ f.isBool = written.isBool ∧
      f.isNullable = written.isNullable ∧
      f.spec.map (·.getStyle) = written.spec.map (·.getStyle) := by
  obtain ⟨type, htype, h⟩ := Option.bind_eq_some_iff.mp h
  obtain ⟨resolved, hresolved, h⟩ := Option.bind_eq_some_iff.mp h
  cases h
  refine ⟨htype, rfl, rfl, rfl, ?_⟩
  cases hold : written.spec with
  | none =>
    rw [hold] at hresolved
    cases hresolved
    rfl
  | some old =>
    rw [hold] at hresolved
    obtain ⟨spec, hspec, rfl⟩ := Option.map_eq_some_iff.mp hresolved
    obtain ⟨annotations, _, hspec⟩ := Option.bind_eq_some_iff.mp hspec
    cases hspec
    rfl

theorem resolve_eq_some (h : s.resolve t = some d) :
    List.Forall₂ (fun written f => s.resolveField written = some f) t.fields d.fields ∧
      List.Forall₂ (fun written x => s.resolveDerived written = some x) t.derived d.derived := by
  unfold Scope.resolve at h
  obtain ⟨annotations, _, h⟩ := Option.bind_eq_some_iff.mp h
  obtain ⟨derived, hderived, h⟩ := Option.bind_eq_some_iff.mp h
  obtain ⟨fields, hfields, h⟩ := Option.bind_eq_some_iff.mp h
  cases h
  exact ⟨mapM_eq_some_iff.mp hfields, mapM_eq_some_iff.mp hderived⟩

theorem exists_of_resolve (h : s.resolve t = some d) {f : DeclaredField Ty Value}
    (hf : f ∈ d.fields) : ∃ written ∈ t.fields, s.resolveField written = some f := by
  obtain ⟨i, hi⟩ := List.mem_iff_getElem?.mp hf
  obtain ⟨written, hwritten, hresolve⟩ := exists_getElem?_left (resolve_eq_some h).1 hi
  exact ⟨written, List.mem_of_getElem? hwritten, hresolve⟩

theorem stylesFit_of_resolve (h : s.resolve t = some d) (ht : t.StylesFit) : d.StylesFit := by
  intro f hf spec hspec hneeds
  obtain ⟨written, hwritten, hfield⟩ := exists_of_resolve h hf
  obtain ⟨_, _, _, hnullable, hstyle⟩ := resolveField_eq_some hfield
  rw [hspec, Option.map_some] at hstyle
  obtain ⟨old, hold, hsame⟩ := Option.map_eq_some_iff.mp hstyle.symm
  rw [hnullable]
  exact ht written hwritten old hold (hsame ▸ hneeds)

theorem boolsFit_of_resolve (h : s.resolve t = some d) (hbool : s.type? "bool" = some .bool)
    (ht : t.BoolsFit "bool") : d.BoolsFit .bool := by
  intro f hf hf'
  obtain ⟨written, hwritten, hfield⟩ := exists_of_resolve h hf
  obtain ⟨htype, _, hsame, _⟩ := resolveField_eq_some hfield
  rw [ht written hwritten (hsame ▸ hf'), hbool] at htype
  exact (Option.some.inj htype).symm

end Scope

/-! ### Positions -/

namespace BeanDeclaration

variable {τ φ α : Type} {d : BeanDeclaration τ φ α} {q : DeclaredProperty τ α}

theorem field_of_mem_properties (hq : q ∈ d.properties) :
    d.fields[q.cell]? = some q.field ∧ q.field.spec = some q.spec := by
  obtain ⟨⟨field, cell⟩, hmem, h⟩ := List.mem_filterMap.mp hq
  obtain ⟨spec, hspec, rfl⟩ := Option.map_eq_some_iff.mp h
  exact ⟨List.mem_zipIdx_iff_getElem?.mp hmem, hspec⟩

theorem nodup_cells (d : BeanDeclaration τ φ α) : (d.properties.map (·.cell)).Nodup := by
  have hpositions : d.fields.zipIdx.Pairwise fun x y => x.2 < y.2 := by
    rw [← List.pairwise_map (f := Prod.snd), List.zipIdx_map_snd]
    exact List.pairwise_lt_range'
  rw [List.Nodup, List.pairwise_map, properties, List.pairwise_filterMap]
  refine hpositions.imp fun {x y} hlt p hp p' hp' => ?_
  obtain ⟨_, _, rfl⟩ := Option.map_eq_some_iff.mp hp
  obtain ⟨_, _, rfl⟩ := Option.map_eq_some_iff.mp hp'
  exact Nat.ne_of_lt hlt

theorem others_ne_cell {x : Nat × DeclaredField τ α} (hx : x ∈ d.others) (hq : q ∈ d.properties) :
    q.cell ≠ x.1 := by
  obtain ⟨⟨field, cell⟩, hmem, h⟩ := List.mem_filterMap.mp hx
  simp only at h
  split at h
  · rename_i hnone
    cases h
    rintro rfl
    obtain ⟨hfield, hspec⟩ := field_of_mem_properties hq
    have heq : field = q.field :=
      Option.some.inj ((List.mem_zipIdx_iff_getElem?.mp hmem).symm.trans hfield)
    rw [heq, hspec] at hnone
    cases hnone
  · cases h

theorem isNullable_of_wrapped (hd : d.StylesFit) (hq : q ∈ d.properties)
    (hwrapped : q.spec.getStyle = .wrapped) : q.isNullable = true := by
  obtain ⟨hfield, hspec⟩ := field_of_mem_properties hq
  exact hd q.field (List.mem_of_getElem? hfield) q.spec hspec (by rw [hwrapped]; rfl)

end BeanDeclaration

/-! ### What fields hold -/

namespace DeclaredProperty

variable {q : DeclaredProperty Ty Value} {v : Option Value} {b : Bean}

/-- The field can hold the value, or null: this only if it is an `Option`. -/
structure Takes (q : DeclaredProperty Ty Value) (v : Option Value) : Prop where
  admits : q.type.Admits v
  present : q.isNullable = false → v ≠ none

/-- The content of the cell of a field that holds a value or null. -/
def stored (q : DeclaredProperty Ty Value) (v : Option Value) : Option Value :=
  if q.isNullable then some (.option q.type v) else v

/-- What the field of a bean holds: null if it is an `Option` that holds nothing. -/
def held (q : DeclaredProperty Ty Value) (b : Bean) : Option Value :=
  if q.isNullable then (b.cell? q.cell).bind Value.content? else b.cell? q.cell

/-- What the property reads as where its field holds a value or null: the whole `Option` if it is
wrapped. -/
def shown (q : DeclaredProperty Ty Value) (v : Option Value) : Option Value :=
  if q.spec.getStyle = .wrapped then some (.option q.type v) else v

theorem fieldType_of_isNullable (h : q.isNullable = true) : q.field.fieldType = .option q.type :=
  if_pos h

theorem fieldType_of_not_isNullable (h : q.isNullable = false) : q.field.fieldType = q.type :=
  if_neg (ne_true_of_eq_false h)

theorem stored_of_isNullable (h : q.isNullable = true) : q.stored v = some (.option q.type v) :=
  if_pos h

theorem stored_of_not_isNullable (h : q.isNullable = false) : q.stored v = v :=
  if_neg (ne_true_of_eq_false h)

theorem stored_ne_none (h : q.Takes v) : q.stored v ≠ none := by
  cases hnull : q.isNullable with
  | true =>
    rw [stored_of_isNullable hnull]
    exact Option.some_ne_none _
  | false =>
    rw [stored_of_not_isNullable hnull]
    exact h.present hnull

theorem shown_of_wrapped (h : q.spec.getStyle = .wrapped) : q.shown v = some (.option q.type v) :=
  if_pos h

theorem shown_of_not_wrapped (h : q.spec.getStyle ≠ .wrapped) : q.shown v = v :=
  if_neg h

theorem held_eq (h : b.cell? q.cell = q.stored v) : q.held b = v := by
  unfold held
  rw [h]
  unfold stored
  split <;> rfl

end DeclaredProperty

/-- An instance of a declared bean has its type, and in the cell of each property a value of the type of
the field. -/
structure BeanDeclaration.IsInstance (d : ResolvedDeclaration) (home : String) (b : Bean) :
    Prop where
  type : b.type = d.beanType home
  cell : ∀ q ∈ d.properties, ∃ v, b.cell? q.cell = some v ∧ v.type = q.field.fieldType ∧ v.WellTyped

theorem BeanDeclaration.IsInstance.cell_eq {d : ResolvedDeclaration} {home : String} {b : Bean}
    (hb : d.IsInstance home b) {q : DeclaredProperty Ty Value} (hq : q ∈ d.properties) :
    q.Takes (q.held b) ∧ b.cell? q.cell = q.stored (q.held b) := by
  obtain ⟨v, hv, htype, hwell⟩ := hb.cell q hq
  have hcontent : ∃ w, q.Takes w ∧ b.cell? q.cell = q.stored w := by
    cases hnull : q.isNullable with
    | true =>
      rw [DeclaredProperty.fieldType_of_isNullable hnull] at htype
      cases v with
      | option t content =>
        cases htype
        refine ⟨content, ⟨?_, fun h => absurd (h.symm.trans hnull) Bool.false_ne_true⟩, ?_⟩
        · rintro w rfl
          exact hwell.1
        · rw [hv, DeclaredProperty.stored_of_isNullable hnull]
      | _ => cases htype
    | false =>
      rw [DeclaredProperty.fieldType_of_not_isNullable hnull] at htype
      refine ⟨some v, ⟨Ty.admits_some.mpr htype, fun _ => Option.some_ne_none v⟩, ?_⟩
      rw [hv, DeclaredProperty.stored_of_not_isNullable hnull]
  obtain ⟨w, hw, hcell⟩ := hcontent
  rw [DeclaredProperty.held_eq hcell]
  exact ⟨hw, hcell⟩

theorem BeanDeclaration.IsInstance.lt_length {d : ResolvedDeclaration} {home : String} {b : Bean}
    (hb : d.IsInstance home b) {q : DeclaredProperty Ty Value} (hq : q ∈ d.properties) :
    q.cell < b.cells.length := by
  obtain ⟨v, hv, _⟩ := hb.cell q hq
  apply Bean.lt_length_of_cell?
  rw [hv]
  exact Option.some_ne_none v

end Beans
