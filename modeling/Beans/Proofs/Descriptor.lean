import Beans.Proofs.Layout
import Beans.Row
/-!
# Well-formed descriptors

The properties of a descriptor, their slots and the parameters of its constructor run in parallel: the
properties of the fields come first and have the slots 0, 1, 2 and so on, and an immutable bean is built
by a constructor that takes, at each of these positions, a value of the slot type. Properties that cannot
be written are refused before any accessor is asked.
-/

set_option autoImplicit false

namespace Beans

/-! ### Constructors -/

namespace Constructor

theorem matchesLeniently_iff {c : Constructor} {types : List Ty} :
    c.matchesLeniently types = true ↔
      List.Forall₂ (fun param t => param.isAssignableFrom t = true) c.params types := by
  simp only [matchesLeniently, Bool.and_eq_true, beq_iff_eq, List.all_eq_true]
  rw [List.forall₂_iff_zip]
  refine and_congr_right fun _ => ⟨fun h a b hab => h (a, b) hab, fun h x hx => h hx⟩

theorem matchesLeniently_of_matchesExactly {c : Constructor} {types : List Ty}
    (h : c.MatchesExactly types) : c.matchesLeniently types = true := by
  rw [matchesLeniently_iff, h]
  exact List.forall₂_same.mpr fun t _ => t.isAssignableFrom_self

end Constructor

namespace Schema

variable {s : Schema} {kind : AccessorKind}

theorem constructorFor_found {constructors : List Constructor} {types : List Ty} {c : Constructor}
    (h : constructorFor constructors types = .found c) :
    c ∈ constructors ∧ c.matchesLeniently types = true := by
  unfold constructorFor at h
  split at h
  · rename_i c' hfind
    cases h
    refine ⟨List.mem_of_find?_eq_some hfind, ?_⟩
    exact Constructor.matchesLeniently_of_matchesExactly (by simpa using List.find?_some hfind)
  · split at h
    · rename_i c' hfilter
      cases h
      have hmem : c ∈ constructors.filter (·.matchesLeniently types) := by simp [hfilter]
      exact List.mem_filter.mp hmem
    · cases h
    · cases h

/-! ### Slots -/

section Properties

variable {own derived : List Property}

theorem length_own
    (hown : List.Forall₂ (fun x p => s.fieldProperty kind x.2 x.1.1 x.1.2 = .ok p)
      s.propertyFields.zipIdx own) : own.length = s.ownNames.length := by
  rw [← hown.length_eq, List.length_zipIdx, length_propertyFields]

theorem ofField_at
    (hown : List.Forall₂ (fun x p => s.fieldProperty kind x.2 x.1.1 x.1.2 = .ok p)
      s.propertyFields.zipIdx own) {i : Nat} {p : Property} (hp : own[i]? = some p) :
    ∃ f style, s.propertyFields[i]? = some (f, style) ∧ p.OfField s i f := by
  obtain ⟨⟨⟨f, style⟩, j⟩, hx, hfield⟩ := exists_getElem?_left hown hp
  rw [List.getElem?_zipIdx] at hx
  obtain ⟨y, hy, heq⟩ := Option.map_eq_some_iff.mp hx
  cases heq
  exact ⟨f, style, hy, fieldProperty_ofField (by simpa using hfield)⟩

theorem ofGetter_of_mem
    (hderived : List.Forall₂ (fun x p => s.derivedProperty kind x.1 x.2.1 x.2.2 = .ok p)
      s.derivedGetters derived) {p : Property} (hp : p ∈ derived) :
    ∃ name ∈ s.derivedNames, p.OfGetter name := by
  obtain ⟨i, hi⟩ := List.mem_iff_getElem?.mp hp
  obtain ⟨⟨m, name, type⟩, hx, hgetter⟩ := exists_getElem?_left hderived hi
  refine ⟨name, ?_, derivedProperty_ofGetter hgetter⟩
  rw [← names_derivedGetters]
  exact List.mem_map_of_mem (f := (·.2.1)) (List.mem_of_getElem? hx)

end Properties

/-- The types in which the properties that have slots are set, in their order. -/
def slotTypes (properties : List Property) : List Ty :=
  (properties.filter (·.slot?.isSome)).map (·.slotType)

theorem slotTypes_append {own derived : List Property}
    (hown : ∀ p ∈ own, p.slot?.isSome = true) (hderived : ∀ p ∈ derived, p.slot? = none) :
    slotTypes (own ++ derived) = own.map (·.slotType) := by
  have hempty : derived.filter (·.slot?.isSome) = [] := by
    apply List.filter_eq_nil_iff.mpr
    intro p hp
    simp [hderived p hp]
  rw [slotTypes, List.filter_append, List.filter_eq_self.mpr hown, hempty, List.append_nil]

theorem slotTypes_of_members {own derived : List Property}
    (hown : List.Forall₂ (fun x p => s.fieldProperty kind x.2 x.1.1 x.1.2 = .ok p)
      s.propertyFields.zipIdx own)
    (hderived : List.Forall₂ (fun x p => s.derivedProperty kind x.1 x.2.1 x.2.2 = .ok p)
      s.derivedGetters derived) : slotTypes (own ++ derived) = own.map (·.slotType) := by
  apply slotTypes_append
  · intro p hp
    obtain ⟨i, hi⟩ := List.mem_iff_getElem?.mp hp
    obtain ⟨f, style, _, hf⟩ := ofField_at hown hi
    rw [hf.slot]
    rfl
  · intro p hp
    obtain ⟨name, _, hg⟩ := ofGetter_of_mem hderived hp
    exact hg.slot

theorem slotTypes_of_allProperties {l : PropertyLayout} (h : s.allProperties kind = .ok l) :
    l.slotTypes = slotTypes l.properties := by
  obtain ⟨own, derived, hall, hown, hderived, -, htypes, -⟩ := allProperties_eq_ok h
  rw [htypes, hall, slotTypes_of_members hown hderived]

theorem nullable_of_allProperties {l : PropertyLayout} (h : s.allProperties kind = .ok l) :
    l.nullable = s.propertyFields.map (·.1.isNullable) := by
  obtain ⟨_, _, -, -, -, -, -, hnullable⟩ := allProperties_eq_ok h
  exact hnullable

end Schema

/-! ### Descriptors -/

namespace Descriptor

variable {s : Schema} {kind : AccessorKind} {d : Descriptor}

theorem ofSchema_eq_ok (h : (ofSchema s kind).result = .ok d) :
    (∃ l, s.allProperties kind = .ok l ∧ l.properties = d.properties) ∧
      s.searchConstructor (Schema.slotTypes d.properties) = .found d.constructor ∧
      d.schema = s ∧
      d.prototype = s.prototypeOf (s.propertyFields.map (·.1.isNullable)) d.constructor := by
  unfold ofSchema at h
  split at h
  · cases h
  · next l hl =>
    split at h
    · cases h
    · split at h <;> cases h
    · next c hc =>
      cases h
      rw [Schema.slotTypes_of_allProperties hl] at hc
      refine ⟨⟨l, hl, rfl⟩, hc, rfl, ?_⟩
      rw [← Schema.nullable_of_allProperties hl]

theorem ofSchema_of_refused {e : BeanError} (h : s.allProperties kind = .error e) :
    (ofSchema s kind).result = .error e := by
  unfold ofSchema
  rw [h]
  rfl

theorem exists_ofSchema {l : Schema.PropertyLayout} {c : Constructor}
    (h : s.allProperties kind = .ok l)
    (hc : s.searchConstructor (Schema.slotTypes l.properties) = .found c) :
    ∃ d, (ofSchema s kind).result = .ok d := by
  rw [← Schema.slotTypes_of_allProperties h] at hc
  unfold ofSchema
  rw [h]
  simp only [hc]
  exact ⟨_, rfl⟩

/-- The properties of a descriptor: those of the fields, which are the properties that have slots, and the
derived ones. -/
theorem properties_of_ofSchema (h : (ofSchema s kind).result = .ok d) :
    ∃ own derived, d.properties = own ++ derived ∧
      List.Forall₂ (fun x p => s.fieldProperty kind x.2 x.1.1 x.1.2 = .ok p)
        s.propertyFields.zipIdx own ∧
      List.Forall₂ (fun x p => s.derivedProperty kind x.1 x.2.1 x.2.2 = .ok p)
        s.derivedGetters derived ∧
      (d.properties.map (·.name)).Nodup ∧
      Schema.slotTypes d.properties = own.map (·.slotType) := by
  obtain ⟨⟨l, hl, hproperties⟩, -⟩ := ofSchema_eq_ok h
  obtain ⟨own, derived, hall, hown, hderived, hdistinct, htypes, -⟩ := Schema.allProperties_eq_ok hl
  rw [Schema.slotTypes_of_allProperties hl] at htypes
  rw [← hproperties]
  exact ⟨own, derived, hall, hown, hderived, hdistinct, htypes⟩

theorem declared_of_mem (h : (ofSchema s kind).result = .ok d) {p : Property} (hp : p ∈ d.properties) :
    (∃ f style slot, (f, style) ∈ s.propertyFields ∧ s.fieldProperty kind slot f style = .ok p) ∨
      ∃ m name t, (m, name, t) ∈ s.derivedGetters ∧ s.derivedProperty kind m name t = .ok p := by
  obtain ⟨own, derived, hall, hown, hderived, -, -⟩ := properties_of_ofSchema h
  rw [hall] at hp
  rcases List.mem_append.mp hp with hp | hp
  · obtain ⟨i, hi⟩ := List.mem_iff_getElem?.mp hp
    obtain ⟨⟨⟨f, style⟩, slot⟩, hx, hfield⟩ := exists_getElem?_left hown hi
    have hmem : ((f, style), slot) ∈ s.propertyFields.zipIdx := List.mem_of_getElem? hx
    exact .inl ⟨f, style, slot, List.fst_mem_of_mem_zipIdx hmem, hfield⟩
  · obtain ⟨i, hi⟩ := List.mem_iff_getElem?.mp hp
    obtain ⟨⟨m, name, t⟩, hx, hgetter⟩ := exists_getElem?_left hderived hi
    exact .inr ⟨m, name, t, List.mem_of_getElem? hx, hgetter⟩

/-! ### Beans that can be read -/

def Reads (d : Descriptor) (b : Bean) : Prop :=
  ∀ p ∈ d.properties, ∃ v, p.get b = .ok v

theorem readAll_of_reads {b : Bean} (h : d.Reads b) :
    d.readAll b = .ok (d.properties.map fun p => (p.name, (p.get b).toOption.join)) := by
  refine mapM_eq_ok_map fun p hp => ?_
  obtain ⟨v, hv⟩ := h p hp
  rw [hv]
  rfl

theorem reads_of_readAll {b : Bean} {values : List (String × Option Value)}
    (h : d.readAll b = .ok values) : d.Reads b := by
  intro p hp
  obtain ⟨i, hi⟩ := List.mem_iff_getElem?.mp hp
  obtain ⟨x, -, hx⟩ := exists_getElem?_left (mapM_eq_ok_iff.mp h).flip hi
  obtain ⟨v, hv, -⟩ := bind_eq_ok.mp hx
  exact ⟨v, hv⟩

end Descriptor

/-! ### Well-formedness -/

/-- What holds of a descriptor that was made from a schema. The properties that come from fields are
those at the first positions, as many as there are own names. -/
structure Descriptor.WellFormed (s : Schema) (d : Descriptor) : Prop where
  names : d.propertyNames = s.ownNames ++ s.derivedNames
  distinct : d.propertyNames.Nodup
  contains : ∀ name, d.contains name = true ↔ name ∈ d.propertyNames
  property : ∀ name p, d.property name = .ok p ↔ p ∈ d.properties ∧ p.name = name
  missing : ∀ name, name ∉ d.propertyNames → d.property name = .error (.propertyNotFound s.type name)
  slot : ∀ (i : Nat) (p : Property), d.properties[i]? = some p →
    p.slot? = if i < s.ownNames.length then some i else none
  readWrite : ∀ (i : Nat) (p : Property), d.properties[i]? = some p →
    (p.style = .readWrite ↔ s.isMutable = true ∧ i < s.ownNames.length)
  writable : ∀ (i : Nat) (p : Property), d.properties[i]? = some p →
    (p.isWritable = true ↔ s.isMutable = true ∧ i < s.ownNames.length)
  /-- The refusal is the same behind any accessor, so no writer is called. -/
  refused : ∀ (i : Nat) (p : Property), d.properties[i]? = some p →
    ¬ (s.isMutable = true ∧ i < s.ownNames.length) → ∀ (a : Accessor) (v : Option Value) (b : Bean),
      { p with accessor := a }.set v b = (.error (.notWritable p.name), b)
  constructor : s.isMutable = false → d.constructor ∈ s.constructors ∧
    d.constructor.arity = s.ownNames.length ∧
    ∀ (i : Nat) (p : Property) (param : Ty), d.properties[i]? = some p →
      d.constructor.params[i]? = some param → param.isAssignableFrom p.slotType = true

/-- A property that is not both read and written refuses every value, whatever its accessor would do. -/
theorem Property.set_of_not_readWrite {p : Property} (h : p.style ≠ .readWrite) (a : Accessor)
    (v : Option Value) (b : Bean) :
    { p with accessor := a }.set v b = (.error (.notWritable p.name), b) := by
  unfold Property.set
  rw [if_pos h]
  rfl

namespace Descriptor

variable {s : Schema} {kind : AccessorKind} {d : Descriptor}

/-- A property of a descriptor is that of a field if its position is one of the first, and else derived. -/
theorem property_at (h : (ofSchema s kind).result = .ok d) {i : Nat} {p : Property}
    (hp : d.properties[i]? = some p) :
    (i < s.ownNames.length ∧ ∃ f style, s.propertyFields[i]? = some (f, style) ∧
      p.OfField s i f) ∨
    (¬ i < s.ownNames.length ∧ ∃ name ∈ s.derivedNames, p.OfGetter name) := by
  obtain ⟨own, derived, hall, hown, hderived, _, _⟩ := properties_of_ofSchema h
  rw [hall, List.getElem?_append, Schema.length_own hown] at hp
  split at hp
  · rename_i hi
    exact Or.inl ⟨hi, Schema.ofField_at hown hp⟩
  · rename_i hi
    exact Or.inr ⟨hi, Schema.ofGetter_of_mem hderived (List.mem_of_getElem? hp)⟩

theorem readWrite_at (h : (ofSchema s kind).result = .ok d) {i : Nat} {p : Property}
    (hp : d.properties[i]? = some p) :
    p.style = .readWrite ↔ s.isMutable = true ∧ i < s.ownNames.length := by
  rcases property_at h hp with ⟨hi, f, style, _, hf⟩ | ⟨hi, name, _, hg⟩
  · rw [hf.style]
    cases hmutable : s.isMutable <;> simp [hi]
  · rw [hg.style]
    simp [hi]

theorem length_slotTypes (h : (ofSchema s kind).result = .ok d) :
    (Schema.slotTypes d.properties).length = s.ownNames.length := by
  obtain ⟨own, _, _, hown, _, _, htypes⟩ := properties_of_ofSchema h
  rw [htypes, List.length_map, Schema.length_own hown]

theorem slotTypes_at (h : (ofSchema s kind).result = .ok d) {i : Nat} {p : Property}
    (hp : d.properties[i]? = some p) (hi : i < s.ownNames.length) :
    (Schema.slotTypes d.properties)[i]? = some p.slotType := by
  obtain ⟨own, _, hall, hown, _, _, htypes⟩ := properties_of_ofSchema h
  rw [← Schema.length_own hown] at hi
  rw [hall, List.getElem?_append_left hi] at hp
  rw [htypes, List.getElem?_map, hp]
  rfl

theorem constructor_of_ofSchema (hs : s.isMutable = false) (h : (ofSchema s kind).result = .ok d) :
    d.constructor ∈ s.constructors ∧
      List.Forall₂ (fun param t => param.isAssignableFrom t = true) d.constructor.params
        (Schema.slotTypes d.properties) := by
  obtain ⟨_, hsearch, _, _⟩ := ofSchema_eq_ok h
  rw [Schema.searchConstructor, hs] at hsearch
  obtain ⟨hmem, hmatch⟩ := Schema.constructorFor_found hsearch
  exact ⟨hmem, Constructor.matchesLeniently_iff.mp hmatch⟩

theorem of_find? {name : String} {p : Property} (h : d.find? name = some p) :
    p ∈ d.properties ∧ p.name = name := by
  rw [find?_eq] at h
  exact ⟨List.mem_of_find?_eq_some h, by simpa using List.find?_some h⟩

theorem find?_eq_some_iff (distinct : d.propertyNames.Nodup) {name : String} {p : Property} :
    d.find? name = some p ↔ p ∈ d.properties ∧ p.name = name := by
  rw [find?_eq]
  exact find?_eq_some_iff_of_distinct distinct

/-- Every descriptor that a schema has is well-formed, under every strategy. -/
theorem ofSchema_wellFormed (h : (ofSchema s kind).result = .ok d) : d.WellFormed s := by
  obtain ⟨_, _, _, _, _, hdistinct, _⟩ := properties_of_ofSchema h
  obtain ⟨⟨l, hl, hproperties⟩, _, hschema, _⟩ := ofSchema_eq_ok h
  constructor
  case names =>
    rw [propertyNames, ← hproperties]
    exact Schema.names_of_allProperties hl
  case distinct => exact hdistinct
  case contains =>
    intro name
    exact PropertyTable.contains_index
  case property =>
    intro name p
    rw [← find?_eq_some_iff hdistinct]
    unfold Descriptor.property
    cases d.find? name <;> simp
  case missing =>
    intro name hname
    have hnone : d.find? name = none := by
      rw [find?_eq, ← Option.not_isSome_iff_eq_none]
      exact fun hsome => hname (find?_isSome_iff_mem_names.mp hsome)
    rw [Descriptor.property, hnone, Descriptor.type, hschema]
  case slot =>
    intro i p hp
    rcases property_at h hp with ⟨hi, f, style, _, hf⟩ | ⟨hi, name, _, hg⟩
    · rw [if_pos hi]
      exact hf.slot
    · rw [if_neg hi]
      exact hg.slot
  case readWrite => exact fun _ _ hp => readWrite_at h hp
  case writable =>
    intro i p hp
    rcases property_at h hp with ⟨hi, f, style, _, hf⟩ | ⟨hi, name, _, hg⟩
    · rw [hf.isWritable]
      simp [hi]
    · simp [Property.isWritable, hg.style, hi]
  case refused =>
    intro i p hp hnot
    exact Property.set_of_not_readWrite fun hstyle => hnot ((readWrite_at h hp).mp hstyle)
  case constructor =>
    intro himmutable
    obtain ⟨hmem, hparams⟩ := constructor_of_ofSchema himmutable h
    refine ⟨hmem, ?_, ?_⟩
    · rw [Constructor.arity, hparams.length_eq, length_slotTypes h]
    · intro i p param hp hparam
      obtain ⟨t, ht, hassign⟩ := exists_getElem?_left hparams.flip hparam
      have hi : i < s.ownNames.length := length_slotTypes h ▸ (List.getElem?_eq_some_iff.mp ht).1
      have heq : t = p.slotType := Option.some.inj (ht.symm.trans (slotTypes_at h hp hi))
      exact heq ▸ hassign

/-- Extends a schema with a label. Two of the fields are no properties, the label may be null, and the
constructor takes a height under one more `Option`. -/
def waypoint : Schema :=
  let type : BeanType := ⟨"atlas", "Waypoint", .row⟩
  let place : BeanType := ⟨"atlas", "Place", .row⟩
  { type
    ancestors := [⟨place, [{
      name := "get_label"
      body := .getter (.option .string) (ReadRule.reader place (.cell 0 true)) }]⟩]
    fields := [
      { name := "origin", type := .string, style := some .field, isStatic := true },
      { name := "label", type := .string, style := some .accessor, isNullable := true },
      { name := "place", type := .string, style := some .accessor, isInherited := true },
      { name := "height", type := .int .i32, style := some .field,
        reader := some (ReadRule.reader type (.cell 1 false)) }]
    methods := [{
      name := "describe"
      body := .getter .string (ReadRule.reader type .typeName)
      derived := some "description" }]
    constructors := [{
      params := [.string, .option (.int .i32)]
      invoke := BuildRule.invoke
        (.row type [.nullable .string 0, .nullable (.option (.int .i32)) 1] []) }] }

theorem waypoint_wellFormed :
    ∃ d, (ofSchema waypoint .handle).result = .ok d ∧
      d.propertyNames = ["label", "height", "description"] ∧ d.WellFormed waypoint :=
  ⟨_, rfl, rfl, @ofSchema_wellFormed waypoint .handle _ rfl⟩

end Descriptor

end Beans
