import Beans.Proofs.Coercion
import Beans.Proofs.Descriptor
import Beans.Proofs.Run
/-!
# Types of collected values

A builder of an immutable bean has one slot for each parameter of the constructor, and the slots hold
null or values of the types of their properties, whatever calls were made on it. So no argument is
refused when the bean is built, and the constructor gets null or a value of the parameter's type at each
position.
-/

set_option autoImplicit false

namespace Beans

/-! ### Slots -/

namespace Descriptor

variable {s : Schema} {kind : AccessorKind} {d : Descriptor}

/-- The types of the slots, in order, and which property has which slot. -/
structure Slotted (types : List Ty) (d : Descriptor) : Prop where
  slot : ∀ p ∈ d.properties, ∀ i, p.slot? = some i → types[i]? = some p.slotType
  property : ∀ i, i < types.length → ∃ p ∈ d.properties, p.slot? = some i
  params : List.Forall₂ (fun param t => param.isAssignableFrom t = true) d.constructor.params types

theorem slotted_slotTypes (hs : s.isMutable = false) (h : (ofSchema s kind).result = .ok d) :
    d.Slotted (Schema.slotTypes d.properties) := by
  constructor
  case slot =>
    intro p hp i hi
    obtain ⟨j, hj⟩ := List.mem_iff_getElem?.mp hp
    rcases property_at h hj with ⟨hown, f, style, _, hf⟩ | ⟨_, name, _, hg⟩
    · have heq : j = i := Option.some.inj (hf.slot.symm.trans hi)
      exact heq ▸ slotTypes_at h hj hown
    · rw [hg.slot] at hi
      cases hi
  case property =>
    intro i hi
    have hlength : i < d.properties.length := by
      have hle : (Schema.slotTypes d.properties).length ≤ d.properties.length := by
        rw [Schema.slotTypes, List.length_map]
        exact List.length_filter_le _ _
      omega
    have hp : d.properties[i]? = some d.properties[i] := List.getElem?_eq_getElem hlength
    rw [length_slotTypes h] at hi
    rcases property_at h hp with ⟨_, f, style, _, hf⟩ | ⟨hderived, _⟩
    · exact ⟨_, List.mem_of_getElem? hp, hf.slot⟩
    · exact absurd hi hderived
  case params => exact (constructor_of_ofSchema hs h).2

end Descriptor

namespace Builder

def Holds (b : Builder) (types : List Ty) : Prop :=
  List.Forall₂ (fun t slot => t.Admits slot.value) types b.slots

variable {s : Schema} {kind : AccessorKind} {d : Descriptor} {b b' : Builder} {types : List Ty}

/-! ### Fresh builders -/

theorem prototype_admits {params types : List Ty}
    (h : List.Forall₂ (fun param t => param.isAssignableFrom t = true) params types)
    (nullable : List Bool) (hlength : types.length = nullable.length) :
    List.Forall₂ Ty.Admits types ((params.zip nullable).map fun (param, isNullable) =>
      if isNullable then none else Value.zero? param) := by
  induction h generalizing nullable with
  | nil => exact .nil
  | @cons param t params types hparam _ ih =>
    cases nullable with
    | nil => cases hlength
    | cons x nullable =>
      refine .cons ?_ (ih nullable (Nat.succ.inj hlength))
      simp only
      split
      · exact t.admits_none
      · exact Value.zero?_admits hparam

theorem holds_builder (hs : s.isMutable = false)
    (h : (Descriptor.ofSchema s kind).result = .ok d) :
    d.builder.Holds (Schema.slotTypes d.properties) := by
  obtain ⟨_, _, hschema, hprototype⟩ := Descriptor.ofSchema_eq_ok h
  have himmutable : d.isMutable = false := by rw [Descriptor.isMutable, hschema, hs]
  unfold Holds Descriptor.builder
  rw [himmutable, if_neg Bool.false_ne_true, List.forall₂_map_right_iff, hprototype,
    Schema.prototypeOf, hs, if_neg Bool.false_ne_true]
  refine prototype_admits (Descriptor.slotted_slotTypes hs h).params _ ?_
  rw [List.length_map, Descriptor.length_slotTypes h, s.length_propertyFields]

/-! ### Calls -/

theorem holds_set (hslotted : b.descriptor.Slotted types) (hb : b.Holds types) {name : String}
    {v : Option Value} (h : b.set name v = .ok b') : b'.Holds types := by
  obtain ⟨p, slot, w, hbuildable, haccept, rfl⟩ := set_eq_ok.mp h
  obtain ⟨hfind, hslot, _⟩ := buildable_eq_ok.mp hbuildable
  have hp : p ∈ b.descriptor.properties := (Descriptor.of_find? hfind).1
  have htype : types[slot]? = some p.slotType := hslotted.slot p hp slot hslot
  exact forall₂_set hb htype (Property.admits_of_accept? haccept)

/-! ### Arguments -/

def wrapped (x : BuilderSlot × Ty) : Option Value :=
  x.1.value.map (·.wrapInto x.2)

section Arguments

variable {params types : List Ty} {slots : List BuilderSlot}

theorem isAssignableFrom_of_mem_zip
    (hparams : List.Forall₂ (fun param t => param.isAssignableFrom t = true) params types)
    (hslots : List.Forall₂ (fun t slot => t.Admits slot.value) types slots)
    {x : BuilderSlot × Ty} (hx : x ∈ slots.zip params) {v : Value} (hv : x.1.value = some v) :
    x.2.isAssignableFrom v.type = true := by
  induction hparams generalizing slots with
  | nil =>
    cases hslots
    cases hx
  | cons hparam _ ih =>
    cases hslots with
    | cons hslot hslots =>
      rcases List.mem_cons.mp hx with rfl | hx
      · rw [hslot v hv]
        exact hparam
      · exact ih hslots hx

theorem admits_wrapped
    (hparams : List.Forall₂ (fun param t => param.isAssignableFrom t = true) params types)
    (hslots : List.Forall₂ (fun t slot => t.Admits slot.value) types slots) :
    List.Forall₂ Ty.Admits params ((slots.zip params).map wrapped) := by
  induction hparams generalizing slots with
  | nil =>
    cases hslots
    exact .nil
  | @cons param t params types hparam _ ih =>
    cases hslots with
    | @cons _ slot _ slots hslot hslots =>
      refine .cons ?_ (ih hslots)
      intro w hw
      obtain ⟨v, hv, rfl⟩ := Option.map_eq_some_iff.mp hw
      apply Value.type_wrapInto
      rw [hslot v hv]
      exact hparam

end Arguments

theorem arguments_eq (hslotted : b.descriptor.Slotted types) (hb : b.Holds types) :
    b.arguments = .ok ((b.slots.zip b.descriptor.constructor.params).map wrapped) := by
  have hpositions (l : List (BuilderSlot × Ty)) : l.map wrapped = l.zipIdx.map (wrapped ·.1) :=
    calc l.map wrapped
      _ = (l.zipIdx.map Prod.fst).map wrapped := by rw [List.zipIdx_map_fst]
      _ = l.zipIdx.map (wrapped ·.1) := List.map_map
  rw [hpositions]
  apply mapM_eq_ok_map
  rintro ⟨⟨slot, param⟩, i⟩ hx
  have hmem := List.fst_mem_of_mem_zipIdx hx
  cases hv : slot.value with
  | none => simp only [hv, wrapped, Option.map_none]
  | some v =>
    have hassign := isAssignableFrom_of_mem_zip hslotted.params hb hmem hv
    simp only [hv, Value.coerce_of_isAssignableFrom hassign, wrapped, Option.map_some]
    rfl

/-! ### Runs -/

/-- What holds of a builder of an immutable bean. -/
structure Typed (b : Builder) : Prop where
  arity : b.slots.length = b.descriptor.constructor.arity
  slot : ∀ p ∈ b.descriptor.properties, ∀ i, p.slot? = some i →
    ∃ slot, b.slots[i]? = some slot ∧ p.slotType.Admits slot.value
  property : ∀ i, i < b.slots.length → ∃ p ∈ b.descriptor.properties, p.slot? = some i
  /-- None is refused, and the constructor gets null or a value of the parameter's type at each
  position. -/
  arguments : ∃ arguments, b.arguments = .ok arguments ∧
    List.Forall₂ Ty.Admits b.descriptor.constructor.params arguments ∧
    b.build.result = b.construct arguments

theorem typed_of_holds (himmutable : b.descriptor.isMutable = false)
    (hslotted : b.descriptor.Slotted types) (hb : b.Holds types) : b.Typed := by
  have hlength : types.length = b.slots.length := hb.length_eq
  constructor
  case arity => rw [← hlength, Constructor.arity, hslotted.params.length_eq]
  case slot =>
    intro p hp i hi
    obtain ⟨slot, hslot, hadmits⟩ := exists_getElem?_left hb.flip (hslotted.slot p hp i hi)
    exact ⟨slot, hslot, hadmits⟩
  case property =>
    intro i hi
    exact hslotted.property i (hlength ▸ hi)
  case arguments =>
    refine ⟨_, arguments_eq hslotted hb, admits_wrapped hslotted.params hb, ?_⟩
    change b.bean = _
    unfold bean
    rw [himmutable, arguments_eq hslotted hb]
    rfl

/-- Whatever is called on a builder of an immutable bean, with whichever converter, its slots hold null
or values of the types of their properties. -/
theorem run_typed (hs : s.isMutable = false) (h : (Descriptor.ofSchema s kind).result = .ok d)
    (converter : ConverterChoice) (calls : List Call) :
    ({ d with converter }.builder.run calls).2.descriptor = { d with converter } ∧
      ({ d with converter }.builder.run calls).2.Typed := by
  obtain ⟨hslot, hproperty, hparams⟩ := Descriptor.slotted_slotTypes hs h
  have hslotted : { d with converter }.Slotted (Schema.slotTypes d.properties) :=
    ⟨hslot, hproperty, hparams⟩
  have hfresh : d.builder.Holds (Schema.slotTypes d.properties) := holds_builder hs h
  -- the invariant is that the slots hold what their types admit; the descriptor is never changed
  obtain ⟨hdescriptor, hholds⟩ := run_preserves
    (P := fun b => b.descriptor = { d with converter } ∧ b.Holds (Schema.slotTypes d.properties))
    (b := { d with converter }.builder)
    (fun b name v b' hb hset =>
      ⟨(descriptor_of_set hset).trans hb.1, holds_set (hb.1 ▸ hslotted) hb.2 hset⟩)
    ⟨rfl, hfresh⟩ calls
  have hschema : d.schema = s := (Descriptor.ofSchema_eq_ok h).2.2.1
  have himmutable : d.isMutable = false := by rw [Descriptor.isMutable, hschema, hs]
  refine ⟨hdescriptor, typed_of_holds ?_ ?_ hholds⟩
  · rw [hdescriptor]
    exact himmutable
  · rw [hdescriptor]
    exact hslotted

/-- An option is taken apart, a value of another type is refused, and the height is wrapped again for
the constructor. -/
theorem run_waypoint :
    ∃ d b, (Descriptor.ofSchema Descriptor.waypoint .handle).result = .ok d ∧
      (d.builder.run [
        .set "label" (some (.option .string (some (.ofString "north")))),
        .set "height" (some (.ofString "high")),
        .setText "height" "12",
        .get "height"]).2 = b ∧
      b.slots.map (·.value) = [some (.ofString "north"), some (.ofInt .i32 12)] ∧
      b.arguments = .ok [some (.ofString "north"), some (.option (.int .i32) (some (.ofInt .i32 12)))] ∧
      b.Typed := by
  refine ⟨_, _, rfl, rfl, rfl, rfl, ?_⟩
  exact (@run_typed Descriptor.waypoint .handle _ rfl rfl .shared _).2

end Builder

end Beans
