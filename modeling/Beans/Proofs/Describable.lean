import Beans.Proofs.DeclaredDescriptor
/-!
# Declarations that can be described

The schema of a declared bean has a descriptor, under every strategy, exactly if no two of its properties
have the same name. No member is missing, and the constructor takes what the properties hold.
-/

set_option autoImplicit false

namespace Beans

/-! ### Properties that are added -/

theorem not_mem_of_nodup_split {before after : List String} {name : String}
    (h : (before ++ name :: after).Nodup) : name ∉ before := fun hmem =>
  (List.nodup_cons.mp (List.nodup_middle.mp h)).1 (List.mem_append_left after hmem)

namespace Schema

variable {s : Schema} {kind : AccessorKind}

theorem insert_of_nodup {t : PropertyTable} {p : Property} {rest : List String}
    (h : (t.properties.map (·.name) ++ p.name :: rest).Nodup) :
    ∃ r, t.insert s.type p = .ok r ∧ (r.properties.map (·.name) ++ rest).Nodup := by
  obtain ⟨r, hr⟩ := PropertyTable.exists_insert s.type (not_mem_of_nodup_split h)
  refine ⟨r, hr, ?_⟩
  rw [(PropertyTable.insert_eq_ok hr).2]
  simpa using h

theorem exists_addFieldProperties {fields : List (Field × FieldStyle)} {l : PropertyLayout}
    (hfields : ∀ x ∈ fields, ∀ slot, ∃ p, s.fieldProperty kind slot x.1 x.2 = .ok p)
    (hdistinct : (l.properties.map (·.name) ++ fields.map (·.1.name)).Nodup) :
    ∃ r, s.addFieldProperties kind l fields = .ok r := by
  induction fields generalizing l with
  | nil => exact ⟨l, rfl⟩
  | cons x fields ih =>
    obtain ⟨hx, hfields⟩ := List.forall_mem_cons.mp hfields
    obtain ⟨p, hp⟩ := hx l.slotTypes.length
    rw [List.map_cons, ← (fieldProperty_ofField hp).name] at hdistinct
    obtain ⟨t, ht, hnext⟩ := insert_of_nodup (s := s) hdistinct
    obtain ⟨r, hr⟩ := ih (l := ⟨t, l.slotTypes ++ [p.slotType], l.nullable ++ [x.1.isNullable]⟩)
      hfields hnext
    exact ⟨r, bind_eq_ok.mpr ⟨p, hp, bind_eq_ok.mpr ⟨t, ht, hr⟩⟩⟩

theorem exists_addDerivedProperties {getters : List (Method × String × Ty)} {t : PropertyTable}
    (hgetters : ∀ x ∈ getters, ∃ p, s.derivedProperty kind x.1 x.2.1 x.2.2 = .ok p)
    (hdistinct : (t.properties.map (·.name) ++ getters.map (·.2.1)).Nodup) :
    ∃ r, s.addDerivedProperties kind t getters = .ok r := by
  induction getters generalizing t with
  | nil => exact ⟨t, rfl⟩
  | cons x getters ih =>
    obtain ⟨⟨p, hp⟩, hgetters⟩ := List.forall_mem_cons.mp hgetters
    rw [List.map_cons, ← (derivedProperty_ofGetter hp).name] at hdistinct
    obtain ⟨t', ht, hnext⟩ := insert_of_nodup (s := s) hdistinct
    obtain ⟨r, hr⟩ := ih hgetters hnext
    exact ⟨r, bind_eq_ok.mpr ⟨p, hp, bind_eq_ok.mpr ⟨t', ht, hr⟩⟩⟩

theorem names_of_addFieldProperties {l : PropertyLayout}
    (h : s.addFieldProperties kind ∅ s.propertyFields = .ok l) :
    l.properties.map (·.name) = s.ownNames := by
  obtain ⟨new, hall, hnew, -⟩ := addFieldProperties_eq_ok h
  rw [hall, ← names_zipIdx_propertyFields]
  exact (map_eq_map_of_forall₂ hnew fun x p hp => (fieldProperty_ofField hp).name.symm).symm

/-- Distinct names are the only thing that properties need of each other. -/
theorem exists_allProperties
    (hfields : ∀ x ∈ s.propertyFields, ∀ slot, ∃ p, s.fieldProperty kind slot x.1 x.2 = .ok p)
    (hgetters : ∀ x ∈ s.derivedGetters, ∃ p, s.derivedProperty kind x.1 x.2.1 x.2.2 = .ok p)
    (hdistinct : (s.ownNames ++ s.derivedNames).Nodup) : ∃ l, s.allProperties kind = .ok l := by
  have hown : ((∅ : PropertyLayout).properties.map (·.name) ++
      s.propertyFields.map (·.1.name)).Nodup := by
    rw [names_propertyFields]
    exact (List.nodup_append.mp hdistinct).1
  obtain ⟨l, hl⟩ := exists_addFieldProperties hfields hown
  have hall : (l.properties.map (·.name) ++ s.derivedGetters.map (·.2.1)).Nodup := by
    rw [names_of_addFieldProperties hl, names_derivedGetters]
    exact hdistinct
  obtain ⟨t, ht⟩ := exists_addDerivedProperties hgetters hall
  exact ⟨_, bind_eq_ok.mpr ⟨l, hl, bind_eq_ok.mpr ⟨t, ht, rfl⟩⟩⟩

theorem constructorFor_singleton {c : Constructor} {types : List Ty} (h : c.MatchesExactly types) :
    constructorFor [c] types = .found c := by
  have hfind : [c].find? (fun c => c.MatchesExactly types) = some c :=
    List.find?_cons_of_pos (decide_eq_true h)
  rw [constructorFor, hfind]

end Schema

/-! ### Members of declared properties -/

namespace Schema.Coherent

variable {s : Schema} {m : Method} {name : String}

theorem exists_getter (h : s.Coherent) (hm : m ∈ s.methods)
    (hname : m.name = "get_" ++ name ∨ m.name = "is_" ++ name) :
    (s.findGetter? m.name).isSome = true := by
  obtain ⟨m', hm', hfind, hname'⟩ := h.exists_method hm
  obtain ⟨e, _, hrole⟩ := h.method m' hm'
  have hreads := (Method.reads_of_name hrole (hname' ▸ hname)).1
  have hreturns : m'.returns?.isSome = true := by
    have hreader := hreads.reader
    unfold Method.reader? at hreader
    unfold Method.returns?
    cases hbody : m'.body with
    | getter t read => rfl
    | setter t write =>
      rw [hbody] at hreader
      cases hreader
  obtain ⟨t, ht⟩ := Option.isSome_iff_exists.mp hreturns
  rw [findGetter?, hfind]
  simp only [bind, Option.bind_some, ht, Option.isSome_some, pure]

end Schema.Coherent

namespace BeanDeclaration

variable {d : ResolvedDeclaration} {home : String} {defaults : List (Option Value)}
  {q : DeclaredProperty Ty Value} {kind : AccessorKind}

theorem getterOf?_isSome (hbools : d.BoolsFit .bool) (hq : q ∈ d.properties)
    (hgetter : q.spec.getStyle.hasGetter = true) :
    ((d.schemaWith home defaults).getterOf?
      ((q.outlineField d.isMutable).toField (d.beanType home))).isSome = true := by
  have hmem : (OutlineMethod.getter q.getterName q.returned q.propertyRead.lift none).toMethod
      (d.beanType home) ∈ (d.schemaWith home defaults).methods := by
    rw [methods_schemaWith]
    apply List.mem_append_left
    apply List.mem_map_of_mem
    refine List.mem_flatMap.mpr ⟨q, hq, ?_⟩
    rw [DeclaredProperty.outlineMethods, if_pos hgetter]
    exact List.mem_cons_self
  have hcoherent := d.schemaWith_coherent home defaults
  unfold Schema.getterOf?
  by_cases hquestion : (q.field.isBool && !q.isNullable && q.spec.getStyle = .smart) = true
  · have hname : q.getterName = "is_" ++ q.name := if_pos hquestion
    have hfound := hcoherent.exists_getter hmem (.inr hname)
    have hbool : q.type = .bool := by
      have hfield := List.mem_of_getElem? (field_of_mem_properties hq).1
      simp only [Bool.and_eq_true] at hquestion
      exact hbools q.field hfield hquestion.1.1
    change ((if q.type = .bool then _ else _ : Option _)).isSome = true
    rw [if_pos hbool, Option.isSome_or, Bool.or_eq_true]
    exact .inl (hname ▸ hfound)
  · have hname : q.getterName = "get_" ++ q.name := if_neg hquestion
    have hfound := hcoherent.exists_getter hmem (.inl hname)
    change ((if q.type = .bool then _ else _ : Option _)).isSome = true
    split
    · rw [Option.isSome_or, Bool.or_eq_true]
      exact .inr (hname ▸ hfound)
    · exact hname ▸ hfound

variable (home defaults)

theorem exists_readMemberOf (hbools : d.BoolsFit .bool) (hq : q ∈ d.properties) :
    ∃ read type, (d.schemaWith home defaults).readMemberOf
      ((q.outlineField d.isMutable).toField (d.beanType home)) q.fieldStyle = .ok (read, type) := by
  unfold Schema.readMemberOf
  cases hstyle : q.fieldStyle with
  | field => exact ⟨_, _, rfl⟩
  | optional => exact ⟨_, _, rfl⟩
  | accessor =>
    have hgetter : q.spec.getStyle.hasGetter = true := by
      unfold DeclaredProperty.fieldStyle at hstyle
      cases hget : q.spec.getStyle <;> rw [hget] at hstyle <;> first | rfl | cases hstyle
    obtain ⟨⟨m, t⟩, hm⟩ := Option.isSome_iff_exists.mp (getterOf?_isSome hbools hq hgetter)
    rw [hm]
    exact ⟨_, _, rfl⟩

theorem exists_writeMemberOf (hmutable : d.isMutable = true) (hq : q ∈ d.properties) :
    ∃ write type, (d.schemaWith home defaults).writeMemberOf
      ((q.outlineField d.isMutable).toField (d.beanType home)) q.fieldStyle = .ok (write, type) := by
  have hwriter := (d.schemaWith_coherent home defaults).isWritable _
    (field_mem_schemaWith home defaults hq)
  unfold Schema.writeMemberOf
  split
  · rename_i found _
    exact ⟨found.1, found.2, rfl⟩
  · rw [if_pos (hwriter.trans hmutable)]
    exact ⟨_, _, rfl⟩

theorem exists_bindingOf (hbools : d.BoolsFit .bool) (hq : q ∈ d.properties) :
    ∃ b type slotType, (d.schemaWith home defaults).bindingOf
      ((q.outlineField d.isMutable).toField (d.beanType home)) q.fieldStyle =
        .ok (b, type, slotType) := by
  obtain ⟨read, type, hread⟩ := exists_readMemberOf home defaults hbools hq
  unfold Schema.bindingOf
  rw [hread]
  by_cases hmutable : d.isMutable = true
  · have hs : (d.schemaWith home defaults).isMutable = true := hmutable
    obtain ⟨write, slotType, hwrite⟩ := exists_writeMemberOf home defaults hmutable hq
    rw [hs]
    exact ⟨_, _, _, bind_eq_ok.mpr ⟨_, rfl, bind_eq_ok.mpr ⟨_, hwrite, rfl⟩⟩⟩
  · have hs : (d.schemaWith home defaults).isMutable = false := Bool.eq_false_iff.mpr hmutable
    rw [hs]
    exact ⟨_, _, _, rfl⟩

/-! ### Descriptors -/

theorem exists_property_of_field (hbools : d.BoolsFit .bool) :
    ∀ x ∈ (d.schemaWith home defaults).propertyFields, ∀ slot,
      ∃ p, (d.schemaWith home defaults).fieldProperty kind slot x.1 x.2 = .ok p := by
  intro x hx slot
  have hcoherent := d.schemaWith_coherent home defaults
  rw [propertyFields_schemaWith] at hx
  obtain ⟨q, hq, rfl⟩ := List.mem_map.mp hx
  obtain ⟨b, type, slotType, hb⟩ := exists_bindingOf home defaults hbools hq
  have hreachable := hcoherent.reachable_field (field_mem_schemaWith home defaults hq) hb
  obtain ⟨a, ha⟩ := hreachable.exists_accessor kind
  exact ⟨_, Schema.fieldProperty_eq_ok.mpr ⟨b, type, slotType, a, hb, ha, rfl⟩⟩

theorem exists_property_of_getter :
    ∀ x ∈ (d.schemaWith home defaults).derivedGetters,
      ∃ p, (d.schemaWith home defaults).derivedProperty kind x.1 x.2.1 x.2.2 = .ok p := by
  rintro ⟨m, name, type⟩ hx
  obtain ⟨hm, hname, -⟩ := Schema.mem_derivedGetters hx
  have hcoherent := d.schemaWith_coherent home defaults
  obtain ⟨a, ha⟩ := (hcoherent.reachable_derived hm hname).exists_accessor kind
  exact ⟨_, Schema.derivedProperty_eq_ok.mpr ⟨a, ha, rfl⟩⟩

theorem exists_allProperties (hbools : d.BoolsFit .bool)
    (hnames : d.propertyNames.Nodup) :
    ∃ l, (d.schemaWith home defaults).allProperties kind = .ok l := by
  rw [← names_schemaWith d home defaults] at hnames
  exact Schema.exists_allProperties (exists_property_of_field home defaults hbools)
    (exists_property_of_getter home defaults) hnames

theorem slotTypes_eq {l : Schema.PropertyLayout}
    (h : (d.schemaWith home defaults).allProperties kind = .ok l) :
    Schema.slotTypes l.properties = d.properties.map (·.type) := by
  obtain ⟨own, derived, hall, hown, hderived, -⟩ := exists_own_derived h
  rw [hall]
  exact slotTypes_of_declares hown hderived

/-- The constructor takes what the properties hold. -/
theorem exists_constructor {l : Schema.PropertyLayout}
    (h : (d.schemaWith home defaults).allProperties kind = .ok l) :
    ∃ c, (d.schemaWith home defaults).searchConstructor (Schema.slotTypes l.properties) = .found c := by
  have hconstructors : (d.schemaWith home defaults).constructors =
      [d.outlineConstructor.toConstructor ⟨d.beanType home, defaults⟩] := rfl
  unfold Schema.searchConstructor
  rw [hconstructors, outlineConstructor]
  by_cases hmutable : d.isMutable = true
  · have hs : (d.schemaWith home defaults).isMutable = true := hmutable
    rw [hs, if_pos rfl, if_pos hmutable]
    exact ⟨_, rfl⟩
  · have himmutable : d.isMutable = false := Bool.eq_false_iff.mpr hmutable
    have hs : (d.schemaWith home defaults).isMutable = false := himmutable
    rw [hs, if_neg Bool.false_ne_true, if_neg hmutable,
      slotTypes_eq home defaults h]
    exact ⟨_, Schema.constructorFor_singleton rfl⟩

/-- The schema of a declared bean has a descriptor exactly if no two properties share a name. -/
theorem exists_descriptor_iff (hbools : d.BoolsFit .bool) :
    (∃ D, (Descriptor.ofSchema (d.schemaWith home defaults) kind).result = .ok D) ↔
      d.propertyNames.Nodup := by
  constructor
  · rintro ⟨D, hD⟩
    obtain ⟨l, hl, -⟩ := (Descriptor.ofSchema_eq_ok hD).1
    obtain ⟨_, _, -, -, -, hdistinct⟩ := exists_own_derived hl
    rw [Schema.names_of_allProperties hl, names_schemaWith] at hdistinct
    exact hdistinct
  · intro hnames
    obtain ⟨l, hl⟩ := exists_allProperties home defaults hbools hnames
    obtain ⟨c, hc⟩ := exists_constructor home defaults hl
    exact Descriptor.exists_ofSchema hl hc

end BeanDeclaration

end Beans
