import Beans.Proofs.BuilderTyping
import Beans.Proofs.DeclaredFields
import Beans.Proofs.DeclaredSchema
/-!
# Descriptors of declared beans

Whatever the strategy, the property of a declared field is read and set in the declared type, or read in
an `Option` of it if it is wrapped, and its accessor does what the outline says of it. The constructor is
the one that the outline lists.
-/

set_option autoImplicit false

namespace Beans

/-! ### Properties of schemas -/

namespace BeanDeclaration

variable (d : ResolvedDeclaration) (home : String) (defaults : List (Option Value))

theorem ownNames_schemaWith : (d.schemaWith home defaults).ownNames = d.properties.map (·.name) := by
  rw [(d.schemaWith_coherent home defaults).own]
  rw [fields_schemaWith, List.map_map]
  rfl

def propertyNames (d : ResolvedDeclaration) : List String :=
  d.properties.map (·.name) ++ d.derived.map (·.name)

theorem names_schemaWith :
    (d.schemaWith home defaults).ownNames ++ (d.schemaWith home defaults).derivedNames =
      d.propertyNames := by
  rw [ownNames_schemaWith, derivedNames_schemaWith, propertyNames]

theorem propertyFields_schemaWith :
    (d.schemaWith home defaults).propertyFields =
      d.properties.map fun q => ((q.outlineField d.isMutable).toField (d.beanType home), q.fieldStyle) := by
  unfold Schema.propertyFields
  rw [fields_schemaWith, List.filterMap_map, ← List.filterMap_eq_map]
  rfl

variable {d} in
theorem field_mem_schemaWith {q : DeclaredProperty Ty Value} (hq : q ∈ d.properties) :
    (q.outlineField d.isMutable).toField (d.beanType home) ∈ (d.schemaWith home defaults).fields := by
  rw [fields_schemaWith]
  exact List.mem_map_of_mem hq

variable {d home defaults}

/-! ### Members by their names -/

section Members

variable {m : Method} {name : String} {t : Ty}

theorem returns_of_name (hm : m ∈ (d.schemaWith home defaults).methods)
    (hname : m.name = "get_" ++ name ∨ m.name = "is_" ++ name) (ht : m.returns? = some t) :
    (∃ q ∈ d.properties, q.name = name ∧ t = q.returned.ty) ∨ ∃ x ∈ d.derived, x.name = name := by
  rcases exists_of_mem_methods hm with ⟨q, hq, o, ho, rfl⟩ | ⟨x, hx, rfl⟩
  · obtain ⟨_, hentry⟩ := Method.reads_of_name (DeclaredProperty.method_matches ho) hname
    rcases DeclaredProperty.eq_of_mem_outlineMethods ho with rfl | ⟨write, _, rfl⟩
    · cases ht
      exact Or.inl ⟨q, hq, hentry, rfl⟩
    · cases ht
  · have hentry := (Method.reads_of_name (Or.inl (x.getter_reads _)) hname).2
    exact Or.inr ⟨x, hx, hentry⟩

theorem param_of_name (hm : m ∈ (d.schemaWith home defaults).methods) (hname : m.name = "set_" ++ name)
    (ht : m.param? = some t) : ∃ q ∈ d.properties, q.name = name ∧ t = q.type := by
  rcases exists_of_mem_methods hm with ⟨q, hq, o, ho, rfl⟩ | ⟨x, hx, rfl⟩
  · obtain ⟨_, hentry⟩ := Method.writes_of_name (DeclaredProperty.method_matches ho) hname
    rcases DeclaredProperty.eq_of_mem_outlineMethods ho with rfl | ⟨write, _, rfl⟩
    · cases ht
    · cases ht
      exact ⟨q, hq, hentry, rfl⟩
  · cases ht

end Members

end BeanDeclaration

/-! ### Types of properties -/

def DeclaredProperty.shownType (q : DeclaredProperty Ty Value) : Ty :=
  if q.spec.getStyle = .wrapped then .option q.type else q.type

theorem DeclaredProperty.returned_ty (q : DeclaredProperty Ty Value) : q.returned.ty = q.shownType := by
  unfold Returned.ty returned shownType
  simp only [decide_eq_true_eq]

theorem DeclaredProperty.shownType_of_fieldStyle {q : DeclaredProperty Ty Value}
    (h : q.fieldStyle ≠ .accessor) : q.shownType = q.type := by
  apply if_neg
  intro hwrapped
  apply h
  rw [fieldStyle, hwrapped]

theorem DeclaredProperty.ite_isOption_shownType (q : DeclaredProperty Ty Value) :
    (if q.shownType.isOption then q.shownType else q.type) = q.shownType := by
  unfold shownType
  split
  · rfl
  · exact ite_self _

namespace BeanDeclaration

variable {d : ResolvedDeclaration} {home : String} {defaults : List (Option Value)}
  {q : DeclaredProperty Ty Value}

/-- The names of fields and derived properties, where no two are the same. -/
structure DistinctNames (d : ResolvedDeclaration) : Prop where
  own : (d.properties.map (·.name)).Nodup
  derived : ∀ q ∈ d.properties, ∀ x ∈ d.derived, x.name ≠ q.name

theorem distinctNames_of_nodup
    (h : ((d.schemaWith home defaults).ownNames ++ (d.schemaWith home defaults).derivedNames).Nodup) :
    d.DistinctNames := by
  rw [ownNames_schemaWith, derivedNames_schemaWith, List.nodup_append] at h
  obtain ⟨hown, _, hdisjoint⟩ := h
  refine ⟨hown, fun q hq x hx heq => ?_⟩
  exact hdisjoint q.name (List.mem_map_of_mem hq) x.name (List.mem_map_of_mem hx) heq.symm

section Types

variable {read : ReadMember} {write : WriteMember} {b : Binding} {t type slotType : Ty}

theorem readMemberOf_type (hd : d.DistinctNames) (hq : q ∈ d.properties)
    (h : (d.schemaWith home defaults).readMemberOf
      ((q.outlineField d.isMutable).toField (d.beanType home)) q.fieldStyle = .ok (read, t)) :
    t = q.shownType := by
  unfold Schema.readMemberOf at h
  split at h
  · rename_i hstyle
    cases h
    exact (DeclaredProperty.shownType_of_fieldStyle (by rw [hstyle]; nofun)).symm
  · rename_i hstyle
    cases h
    exact (DeclaredProperty.shownType_of_fieldStyle (by rw [hstyle]; nofun)).symm
  · split at h
    · rename_i m returns hm
      cases h
      obtain ⟨hfind, hname, hreturns⟩ := Schema.getterOf?_eq_some hm
      have hmem := Schema.mem_of_findMethod? hfind rfl
      rcases returns_of_name hmem hname hreturns with ⟨q', hq', hsame, rfl⟩ | ⟨x, hx, hsame⟩
      · have heq : q' = q := eq_of_distinct hd.own hq' hq hsame
        rw [heq, q.returned_ty]
        exact q.ite_isOption_shownType
      · exact absurd hsame (hd.derived q hq x hx)
    · cases h

theorem writeMemberOf_type (hd : d.DistinctNames) (hq : q ∈ d.properties)
    (h : (d.schemaWith home defaults).writeMemberOf
      ((q.outlineField d.isMutable).toField (d.beanType home)) q.fieldStyle = .ok (write, t)) :
    t = q.type := by
  unfold Schema.writeMemberOf at h
  split at h
  · rename_i found hfound
    cases h
    unfold Schema.setterOf? at hfound
    obtain ⟨_, _, hfound⟩ := Option.bind_eq_some_iff.mp hfound
    obtain ⟨m, hm, hfound⟩ := Option.bind_eq_some_iff.mp hfound
    obtain ⟨t', ht, hfound⟩ := Option.bind_eq_some_iff.mp hfound
    cases hfound
    have hmem := Schema.mem_of_findMethod? hm rfl
    obtain ⟨q', hq', hsame, rfl⟩ := param_of_name hmem (Schema.name_of_findMethod? hm) ht
    exact congrArg DeclaredProperty.type (eq_of_distinct hd.own hq' hq hsame)
  · split at h
    · cases h
      rfl
    · cases h

theorem bindingOf_types (hd : d.DistinctNames) (hq : q ∈ d.properties)
    (h : (d.schemaWith home defaults).bindingOf
      ((q.outlineField d.isMutable).toField (d.beanType home)) q.fieldStyle = .ok (b, type, slotType)) :
    b.property = q.name ∧ type = q.shownType ∧ slotType = q.type := by
  obtain ⟨read, hread, ⟨_, write, hwrite, rfl⟩ | ⟨_, rfl, rfl⟩⟩ := Schema.bindingOf_eq_ok h
  · exact ⟨rfl, readMemberOf_type hd hq hread, writeMemberOf_type hd hq hwrite⟩
  · exact ⟨rfl, readMemberOf_type hd hq hread, rfl⟩

end Types

end BeanDeclaration

/-! ### Properties -/

/-- The property of a declared field, at a position among those of fields. -/
structure Property.Declares (q : DeclaredProperty Ty Value) (isMutable : Bool) (bean : BeanType)
    (slot : Nat) (p : Property) : Prop where
  name : p.name = q.name
  declaringType : p.declaringType = bean
  type : p.type = q.shownType
  slotType : p.slotType = q.type
  style : p.style = if isMutable then .readWrite else .immutable
  slot : p.slot? = some slot
  /-- The accessor does what the generated one does. -/
  accessor : p.accessor.Agrees
    (.handle ⟨q.name, (q.access isMutable bean).read, (q.access isMutable bean).write⟩)

theorem Property.Declares.isBuildable {q : DeclaredProperty Ty Value} {isMutable : Bool} {bean : BeanType}
    {slot : Nat} {p : Property} (h : p.Declares q isMutable bean slot) : p.isBuildable = true := by
  rw [Property.isBuildable, h.style]
  cases isMutable <;> rfl

namespace BeanDeclaration

variable {d : ResolvedDeclaration} {home : String} {defaults : List (Option Value)}
  {q : DeclaredProperty Ty Value} {kind : AccessorKind}

theorem declares_of_fieldProperty
    (hnodup : ((d.schemaWith home defaults).ownNames ++
      (d.schemaWith home defaults).derivedNames).Nodup)
    (hq : q ∈ d.properties) {slot : Nat} {p : Property}
    (h : (d.schemaWith home defaults).fieldProperty kind slot
      ((q.outlineField d.isMutable).toField (d.beanType home)) q.fieldStyle = .ok p) :
    p.Declares q d.isMutable (d.beanType home) slot := by
  obtain ⟨b, type, slotType, a, hb, ha, rfl⟩ := Schema.fieldProperty_eq_ok.mp h
  obtain ⟨hproperty, rfl, rfl⟩ := bindingOf_types (distinctNames_of_nodup hnodup) hq hb
  refine ⟨rfl, rfl, rfl, rfl, rfl, rfl, ?_⟩
  have hcoherent := d.schemaWith_coherent home defaults
  have hfield := field_mem_schemaWith home defaults hq
  obtain ⟨e, he, hname, hresolves⟩ := hcoherent.resolves_field hnodup hfield rfl hb
  have hentry : e = q.access d.isMutable (d.beanType home) := by
    apply hcoherent.eq_of_name hnodup (List.mem_of_find?_eq_some he) (access_mem_generated hq)
    rw [hname, hproperty]
    rfl
  subst hentry
  obtain ⟨a', ha', hagrees⟩ := hresolves.exists_accessor (by rw [he, ← hname]) kind
  rw [ha] at ha'
  cases ha'
  rw [hproperty] at hagrees
  exact hagrees

/-- The properties of a declared bean: those of its fields, position by position, and derived ones, which
have no position. -/
theorem exists_own_derived {l : Schema.PropertyLayout}
    (h : (d.schemaWith home defaults).allProperties kind = .ok l) :
    ∃ own derived, l.properties = own ++ derived ∧
      List.Forall₂ (fun x p => Property.Declares x.1 d.isMutable (d.beanType home) x.2 p)
        d.properties.zipIdx own ∧
      (∀ p ∈ derived, p.slot? = none ∧ p.style = .derived) ∧ (l.properties.map (·.name)).Nodup := by
  have hnames := Schema.names_of_allProperties h
  obtain ⟨own, derived, hall, hown, hderived, hdistinct, -⟩ := Schema.allProperties_eq_ok h
  refine ⟨own, derived, hall, ?fields, ?getters, hdistinct⟩
  case fields =>
    rw [propertyFields_schemaWith, List.zipIdx_map, List.forall₂_map_left_iff] at hown
    have hmem : ∀ x ∈ d.properties.zipIdx, x.1 ∈ d.properties :=
      fun x hx => List.fst_mem_of_mem_zipIdx hx
    refine ((List.forall₂_and_left _ _).mpr ⟨hmem, hown⟩).imp ?_
    rintro x p ⟨hq, hfield⟩
    exact declares_of_fieldProperty (hnames ▸ hdistinct) hq hfield
  case getters =>
    intro p hp
    obtain ⟨name, _, hgetter⟩ := Schema.ofGetter_of_mem hderived hp
    exact ⟨hgetter.slot, hgetter.style⟩

theorem slotTypes_of_declares {bean : BeanType} {own derived : List Property}
    (hown : List.Forall₂ (fun x p => Property.Declares x.1 d.isMutable bean x.2 p)
      d.properties.zipIdx own)
    (hderived : ∀ p ∈ derived, p.slot? = none ∧ p.style = .derived) :
    Schema.slotTypes (own ++ derived) = d.properties.map (·.type) := by
  have hslots : ∀ p ∈ own, p.slot?.isSome = true := by
    intro p hp
    obtain ⟨i, hi⟩ := List.mem_iff_getElem?.mp hp
    obtain ⟨x, _, hdeclares⟩ := exists_getElem?_left hown hi
    rw [hdeclares.slot]
    rfl
  rw [Schema.slotTypes_append hslots fun p hp => (hderived p hp).1]
  calc own.map (·.slotType)
    _ = d.properties.zipIdx.map (·.1.type) :=
      (map_eq_map_of_forall₂ hown fun x p hp => hp.slotType.symm).symm
    _ = (d.properties.zipIdx.map Prod.fst).map (·.type) := by
      rw [List.map_map]
      rfl
    _ = d.properties.map (·.type) := by rw [List.zipIdx_map_fst]

end BeanDeclaration

/-! ### Descriptors -/

/-- What the schema of a declared bean amounts to: the properties of the fields, those that are derived,
and the constructor that the declaration outlines. -/
structure Descriptor.Declared (d : ResolvedDeclaration) (home : String)
    (defaults : List (Option Value)) (own derived : List Property) (D : Descriptor) : Prop where
  schema : D.schema = d.schemaWith home defaults
  properties : D.properties = own ++ derived
  own : List.Forall₂ (fun x p => p.Declares x.1 d.isMutable (d.beanType home) x.2)
    d.properties.zipIdx own
  derived : ∀ p ∈ derived, p.slot? = none ∧ p.style = .derived
  distinct : D.propertyNames.Nodup
  constructor : D.constructor = d.outlineConstructor.toConstructor ⟨d.beanType home, defaults⟩
  prototype : d.isMutable = false → D.prototype =
    d.properties.map fun q => if q.isNullable then none else Value.zero? q.type

namespace Descriptor

variable {d : ResolvedDeclaration} {home : String} {defaults : List (Option Value)}
  {kind : AccessorKind} {D : Descriptor}

theorem mem_constructors_of_searchConstructor {s : Schema} {types : List Ty} {c : Constructor}
    (h : s.searchConstructor types = .found c) : c ∈ s.constructors := by
  unfold Schema.searchConstructor at h
  split at h
  · unfold Schema.emptyConstructor at h
    split at h
    · rename_i c' hfind
      cases h
      exact List.mem_of_find?_eq_some hfind
    · cases h
  · exact (Schema.constructorFor_found h).1

theorem constructor_of_searchConstructor {types : List Ty} {c : Constructor}
    (h : (d.schemaWith home defaults).searchConstructor types = .found c) :
    c = d.outlineConstructor.toConstructor ⟨d.beanType home, defaults⟩ :=
  List.mem_singleton.mp (mem_constructors_of_searchConstructor h)

theorem prototypeOf_schemaWith (himmutable : d.isMutable = false) :
    (d.schemaWith home defaults).prototypeOf
        ((d.schemaWith home defaults).propertyFields.map (·.1.isNullable))
        (d.outlineConstructor.toConstructor ⟨d.beanType home, defaults⟩) =
      d.properties.map fun q => if q.isNullable then none else Value.zero? q.type := by
  have hs : (d.schemaWith home defaults).isMutable = false := himmutable
  obtain ⟨uses, hc⟩ : ∃ uses, d.outlineConstructor = .arguments (d.properties.map (·.type)) uses :=
    ⟨_, by rw [BeanDeclaration.outlineConstructor, himmutable, if_neg Bool.false_ne_true]⟩
  rw [Schema.prototypeOf, hs, if_neg Bool.false_ne_true, BeanDeclaration.propertyFields_schemaWith, hc]
  simp only [OutlineConstructor.toConstructor]
  rw [List.map_map, List.zip_map', List.map_map]
  rfl

/-- Each descriptor that the schema of a declared bean has is as declared, under every strategy. -/
theorem exists_declared (h : (ofSchema (d.schemaWith home defaults) kind).result = .ok D) :
    ∃ own derived, D.Declared d home defaults own derived := by
  obtain ⟨⟨l, hall, hsame⟩, hsearch, hschema, hprototype⟩ := ofSchema_eq_ok h
  obtain ⟨own, derived, hproperties, hown, hderived, hdistinct⟩ :=
    BeanDeclaration.exists_own_derived hall
  rw [hsame] at hproperties hdistinct
  have hconstructor := constructor_of_searchConstructor hsearch
  refine ⟨own, derived, hschema, hproperties, hown, hderived, hdistinct, hconstructor, ?_⟩
  intro himmutable
  rw [hprototype, hconstructor, prototypeOf_schemaWith himmutable]

namespace Declared

variable {own derived : List Property}

theorem withConverter (h : D.Declared d home defaults own derived) (converter : ConverterChoice) :
    { D with converter }.Declared d home defaults own derived :=
  ⟨h.schema, h.properties, h.own, h.derived, h.distinct, h.constructor, h.prototype⟩

theorem own_at (h : D.Declared d home defaults own derived) {slot : Nat}
    {q : DeclaredProperty Ty Value} (hq : d.properties[slot]? = some q) :
    ∃ p, own[slot]? = some p ∧ p.Declares q d.isMutable (d.beanType home) slot := by
  have hx : d.properties.zipIdx[slot]? = some (q, slot) := by
    rw [List.getElem?_zipIdx, hq, Nat.zero_add]
    rfl
  exact exists_getElem?_left h.own.flip hx

theorem declares_of_mem (h : D.Declared d home defaults own derived) {p : Property} (hp : p ∈ own) :
    ∃ q slot, p.Declares q d.isMutable (d.beanType home) slot := by
  obtain ⟨i, hi⟩ := List.mem_iff_getElem?.mp hp
  obtain ⟨x, _, hdeclares⟩ := exists_getElem?_left h.own hi
  exact ⟨x.1, x.2, hdeclares⟩

theorem find?_own (h : D.Declared d home defaults own derived) {p : Property} (hp : p ∈ own) :
    D.find? p.name = some p := by
  refine (find?_eq_some_iff h.distinct).mpr ⟨?_, rfl⟩
  rw [h.properties]
  exact List.mem_append_left _ hp

theorem property (h : D.Declared d home defaults own derived) {q : DeclaredProperty Ty Value}
    (hq : q ∈ d.properties) :
    ∃ p slot, D.property q.name = .ok p ∧ p.Declares q d.isMutable (d.beanType home) slot := by
  obtain ⟨slot, hslot⟩ := List.mem_iff_getElem?.mp hq
  obtain ⟨p, hp, hdeclares⟩ := h.own_at hslot
  refine ⟨p, slot, ?_, hdeclares⟩
  rw [Descriptor.property, ← hdeclares.name, h.find?_own (List.mem_of_getElem? hp)]

end Declared

end Descriptor

end Beans
