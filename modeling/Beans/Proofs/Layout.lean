import Beans.Descriptor.Layout
import Beans.Proofs.Binding
/-!
# The properties of a schema

A schema that has properties at all has one for each of its own styled fields, at the position of the
field, and behind them one for each getter that derives one. No two have the same name. How the members
are reached decides about the accessors and nothing else: two strategies whose accessors are related
come to properties that are related.
-/

set_option autoImplicit false

namespace Beans

namespace Schema

variable {s : Schema} {kind : AccessorKind}

/-! ### Members of a field -/

theorem findGetter?_eq_some {name : String} {m : Method} {t : Ty}
    (h : s.findGetter? name = some (m, t)) :
    s.findMethod? m.name = some m ∧ m.name = name ∧ m.returns? = some t := by
  unfold findGetter? at h
  obtain ⟨m', hm, h⟩ := Option.bind_eq_some_iff.mp h
  obtain ⟨t', ht, h⟩ := Option.bind_eq_some_iff.mp h
  cases h
  exact ⟨findMethod?_name hm, name_of_findMethod? hm, ht⟩

theorem getterOf?_eq_some {f : Field} {m : Method} {t : Ty} (h : s.getterOf? f = some (m, t)) :
    s.findMethod? m.name = some m ∧ (m.name = "get_" ++ f.name ∨ m.name = "is_" ++ f.name) ∧
      m.returns? = some t := by
  have hor : s.findGetter? ("is_" ++ f.name) = some (m, t) ∨
      s.findGetter? ("get_" ++ f.name) = some (m, t) := by
    unfold getterOf? at h
    simp only at h
    split at h
    · rcases Option.or_eq_some_iff.mp h with h | ⟨_, h⟩
      · exact Or.inl h
      · exact Or.inr h
    · exact Or.inr h
  rcases hor with h | h
  · obtain ⟨hfind, hname, ht⟩ := findGetter?_eq_some h
    exact ⟨hfind, Or.inr hname, ht⟩
  · obtain ⟨hfind, hname, ht⟩ := findGetter?_eq_some h
    exact ⟨hfind, Or.inl hname, ht⟩

theorem readMemberOf_eq_ok {f : Field} {style : FieldStyle} {read : ReadMember} {t : Ty}
    (h : s.readMemberOf f style = .ok (read, t)) :
    (style ≠ .accessor ∧ read = .field f.name) ∨
      ∃ m, read = .getter m.name ∧ s.findMethod? m.name = some m ∧
        (m.name = "get_" ++ f.name ∨ m.name = "is_" ++ f.name) ∧ m.returns?.isSome = true := by
  unfold readMemberOf at h
  split at h
  · cases h
    exact Or.inl ⟨nofun, rfl⟩
  · cases h
    exact Or.inl ⟨nofun, rfl⟩
  · split at h
    · rename_i m returns hm
      cases h
      obtain ⟨hfind, hname, ht⟩ := getterOf?_eq_some hm
      exact Or.inr ⟨m, rfl, hfind, hname, by rw [ht]; rfl⟩
    · cases h

theorem writeMemberOf_eq_ok {f : Field} {style : FieldStyle} {write : WriteMember} {t : Ty}
    (h : s.writeMemberOf f style = .ok (write, t)) :
    (f.writer.isSome = true ∧ write = .field f.name) ∨
      ∃ m, write = .setter m.name ∧ s.findMethod? m.name = some m ∧ m.name = "set_" ++ f.name ∧
        m.param?.isSome = true := by
  unfold writeMemberOf at h
  split at h
  · rename_i found hfound
    cases h
    unfold setterOf? at hfound
    obtain ⟨_, _, hfound⟩ := Option.bind_eq_some_iff.mp hfound
    obtain ⟨m, hm, hfound⟩ := Option.bind_eq_some_iff.mp hfound
    obtain ⟨t', ht, hfound⟩ := Option.bind_eq_some_iff.mp hfound
    cases hfound
    exact Or.inr ⟨m, rfl, findMethod?_name hm, name_of_findMethod? hm, by rw [ht]; rfl⟩
  · split at h
    · rename_i hwriter
      cases h
      exact Or.inl ⟨hwriter, rfl⟩
    · cases h

/-! ### The property of a field -/

/-- The members that the property of a field is bound to, with the types in which it is read and set. -/
def bindingOf (s : Schema) (f : Field) (style : FieldStyle) :
    Except BeanError (Binding × Ty × Ty) := do
  let (read, type) ← s.readMemberOf f style
  if s.isMutable then
    let (write, slotType) ← s.writeMemberOf f style
    return (⟨f.name, read, some write⟩, type, slotType)
  else return (⟨f.name, read, none⟩, type, f.type)

def propertyOf (s : Schema) (slot : Nat) (f : Field) (type slotType : Ty) (a : Accessor) :
    Property where
  name := f.name
  declaringType := s.type
  type
  slotType
  style := if s.isMutable then .readWrite else .immutable
  slot? := some slot
  annotations := f.annotations
  accessor := a

def derivedOf (s : Schema) (m : Method) (name : String) (type : Ty) (a : Accessor) : Property where
  name
  declaringType := s.type
  type
  slotType := type
  style := .derived
  slot? := none
  annotations := m.annotations
  accessor := a

theorem fieldProperty_eq (s : Schema) (kind : AccessorKind) (slot : Nat) (f : Field)
    (style : FieldStyle) :
    s.fieldProperty kind slot f style = (do
      let (b, type, slotType) ← s.bindingOf f style
      return s.propertyOf slot f type slotType (← Accessor.ofBinding? s b kind)) := by
  unfold fieldProperty bindingOf propertyOf
  cases s.readMemberOf f style with
  | error e => rfl
  | ok r =>
    cases hm : s.isMutable with
    | false => rfl
    | true =>
      cases s.writeMemberOf f style with
      | error e => rfl
      | ok w => rfl

theorem derivedProperty_eq (s : Schema) (kind : AccessorKind) (m : Method) (name : String)
    (type : Ty) :
    s.derivedProperty kind m name type = (do
      return s.derivedOf m name type
        (← Accessor.ofBinding? s ⟨name, .getter m.name, none⟩ kind)) := rfl

theorem bindingOf_eq_ok {f : Field} {style : FieldStyle} {b : Binding} {type slotType : Ty}
    (h : s.bindingOf f style = .ok (b, type, slotType)) :
    ∃ read, s.readMemberOf f style = .ok (read, type) ∧
      ((s.isMutable = true ∧ ∃ write, s.writeMemberOf f style = .ok (write, slotType) ∧
          b = ⟨f.name, read, some write⟩) ∨
        (s.isMutable = false ∧ slotType = f.type ∧ b = ⟨f.name, read, none⟩)) := by
  unfold bindingOf at h
  obtain ⟨⟨read, t⟩, hread, h⟩ := bind_eq_ok.mp h
  cases hm : s.isMutable with
  | false =>
    simp only [hm] at h
    cases h
    exact ⟨read, hread, Or.inr ⟨rfl, rfl, rfl⟩⟩
  | true =>
    simp only [hm] at h
    obtain ⟨⟨write, w⟩, hwrite, h⟩ := bind_eq_ok.mp h
    cases h
    exact ⟨read, hread, Or.inl ⟨rfl, write, hwrite, rfl⟩⟩

theorem fieldProperty_eq_ok {slot : Nat} {f : Field} {style : FieldStyle} {p : Property} :
    s.fieldProperty kind slot f style = .ok p ↔ ∃ b type slotType a,
      s.bindingOf f style = .ok (b, type, slotType) ∧ Accessor.ofBinding? s b kind = .ok a ∧
        p = s.propertyOf slot f type slotType a := by
  rw [fieldProperty_eq]
  constructor
  · intro h
    obtain ⟨⟨b, type, slotType⟩, hb, h⟩ := bind_eq_ok.mp h
    obtain ⟨a, ha, h⟩ := bind_eq_ok.mp h
    cases h
    exact ⟨b, type, slotType, a, hb, ha, rfl⟩
  · rintro ⟨b, type, slotType, a, hb, ha, rfl⟩
    exact bind_eq_ok.mpr ⟨_, hb, bind_eq_ok.mpr ⟨a, ha, rfl⟩⟩

theorem derivedProperty_eq_ok {m : Method} {name : String} {type : Ty} {p : Property} :
    s.derivedProperty kind m name type = .ok p ↔ ∃ a,
      Accessor.ofBinding? s ⟨name, .getter m.name, none⟩ kind = .ok a ∧
        p = s.derivedOf m name type a := by
  rw [derivedProperty_eq]
  constructor
  · intro h
    obtain ⟨a, ha, h⟩ := bind_eq_ok.mp h
    cases h
    exact ⟨a, ha, rfl⟩
  · rintro ⟨a, ha, rfl⟩
    exact bind_eq_ok.mpr ⟨a, ha, rfl⟩

end Schema

/-! ### Tables of properties -/

namespace PropertyTable

variable {t r : PropertyTable} {type : BeanType} {p : Property}

theorem contains_index {name : String} :
    t.index.contains name = true ↔ name ∈ t.properties.map (·.name) := by
  rw [Table.contains, t.indexed, List.findIdx?_isSome]
  simp

theorem insert_eq_ok (h : t.insert type p = .ok r) :
    p.name ∉ t.properties.map (·.name) ∧ r.properties = t.properties ++ [p] := by
  unfold insert at h
  split at h
  · cases h
  · next hnew =>
    cases h
    exact ⟨mt contains_index.mpr hnew, rfl⟩

theorem exists_insert (type : BeanType) (h : p.name ∉ t.properties.map (·.name)) :
    ∃ r, t.insert type p = .ok r :=
  ⟨_, dif_neg (mt contains_index.mp h)⟩

theorem distinct_of_insert (ht : (t.properties.map (·.name)).Nodup) (h : t.insert type p = .ok r) :
    (r.properties.map (·.name)).Nodup := by
  obtain ⟨hnew, hr⟩ := insert_eq_ok h
  rw [hr, List.map_append, List.nodup_append]
  refine ⟨ht, List.nodup_singleton _, ?_⟩
  intro a ha b hb heq
  have hb : b = p.name := List.mem_singleton.mp hb
  subst b
  subst a
  exact hnew ha

end PropertyTable

structure Property.OfField (s : Schema) (slot : Nat) (f : Field) (p : Property) : Prop where
  name : p.name = f.name
  slot : p.slot? = some slot
  style : p.style = if s.isMutable then .readWrite else .immutable
  isWritable : p.isWritable = s.isMutable
  slotType : s.isMutable = false → p.slotType = f.type

structure Property.OfGetter (name : String) (p : Property) : Prop where
  name : p.name = name
  slot : p.slot? = none
  style : p.style = .derived

namespace Schema

variable {s : Schema} {kind : AccessorKind}

theorem fieldProperty_ofField {slot : Nat} {f : Field} {style : FieldStyle} {p : Property}
    (h : s.fieldProperty kind slot f style = .ok p) : p.OfField s slot f := by
  obtain ⟨b, type, slotType, a, hb, ha, rfl⟩ := fieldProperty_eq_ok.mp h
  have hwritable := Accessor.isWritable_of_ofBinding? ha
  obtain ⟨read, _, ⟨hm, write, _, rfl⟩ | ⟨hm, rfl, rfl⟩⟩ := bindingOf_eq_ok hb
  · refine ⟨rfl, rfl, rfl, ?_, fun himmutable => ?_⟩
    · simp [Property.isWritable, propertyOf, hwritable, hm]
    · rw [hm] at himmutable
      cases himmutable
  · exact ⟨rfl, rfl, rfl, by simp [Property.isWritable, propertyOf, hm], fun _ => rfl⟩

theorem derivedProperty_ofGetter {m : Method} {name : String} {type : Ty} {p : Property}
    (h : s.derivedProperty kind m name type = .ok p) : p.OfGetter name := by
  obtain ⟨a, _, rfl⟩ := derivedProperty_eq_ok.mp h
  exact ⟨rfl, rfl, rfl⟩

/-! ### Adding properties one by one -/

/-- Each field gets its property, at the position of the number of properties before it. -/
theorem addFieldProperties_eq_ok {fields : List (Field × FieldStyle)} {l r : PropertyLayout}
    (h : s.addFieldProperties kind l fields = .ok r) :
    ∃ new, r.properties = l.properties ++ new ∧
      List.Forall₂ (fun x p => s.fieldProperty kind x.2 x.1.1 x.1.2 = .ok p)
        (fields.zipIdx l.slotTypes.length) new ∧
      ((l.properties.map (·.name)).Nodup → (r.properties.map (·.name)).Nodup) ∧
      r.slotTypes = l.slotTypes ++ new.map (·.slotType) ∧
      r.nullable = l.nullable ++ fields.map (·.1.isNullable) := by
  induction fields generalizing l with
  | nil =>
    cases h
    exact ⟨[], by simp, .nil, id, by simp, by simp⟩
  | cons x fields ih =>
    obtain ⟨f, style⟩ := x
    unfold addFieldProperties at h
    obtain ⟨p, hp, h⟩ := bind_eq_ok.mp h
    obtain ⟨t, ht, h⟩ := bind_eq_ok.mp h
    obtain ⟨new, hall, hnew, hdistinct, htypes, hnullable⟩ := ih h
    refine ⟨p :: new, ?_, ?_, fun hl => hdistinct (PropertyTable.distinct_of_insert hl ht), ?_, ?_⟩
    · rw [hall, (PropertyTable.insert_eq_ok ht).2, List.append_assoc]
      rfl
    · rw [List.zipIdx_cons]
      refine .cons hp ?_
      simpa using hnew
    · simp [htypes]
    · simp [hnullable]

theorem addDerivedProperties_eq_ok {getters : List (Method × String × Ty)} {t r : PropertyTable}
    (h : s.addDerivedProperties kind t getters = .ok r) :
    ∃ new, r.properties = t.properties ++ new ∧
      List.Forall₂ (fun x p => s.derivedProperty kind x.1 x.2.1 x.2.2 = .ok p) getters new ∧
      ((t.properties.map (·.name)).Nodup → (r.properties.map (·.name)).Nodup) := by
  induction getters generalizing t with
  | nil =>
    cases h
    exact ⟨[], by simp, .nil, id⟩
  | cons x getters ih =>
    obtain ⟨m, name, type⟩ := x
    unfold addDerivedProperties at h
    obtain ⟨p, hp, h⟩ := bind_eq_ok.mp h
    obtain ⟨t', ht, h⟩ := bind_eq_ok.mp h
    obtain ⟨new, hall, hnew, hdistinct⟩ := ih h
    refine ⟨p :: new, ?_, .cons hp hnew, fun hl => hdistinct (PropertyTable.distinct_of_insert hl ht)⟩
    rw [hall, (PropertyTable.insert_eq_ok ht).2, List.append_assoc]
    rfl

/-- The properties of a schema: those of its fields with their positions, then the derived ones. -/
theorem allProperties_eq_ok {l : PropertyLayout} (h : s.allProperties kind = .ok l) :
    ∃ own derived, l.properties = own ++ derived ∧
      List.Forall₂ (fun x p => s.fieldProperty kind x.2 x.1.1 x.1.2 = .ok p)
        s.propertyFields.zipIdx own ∧
      List.Forall₂ (fun x p => s.derivedProperty kind x.1 x.2.1 x.2.2 = .ok p)
        s.derivedGetters derived ∧
      (l.properties.map (·.name)).Nodup ∧
      l.slotTypes = own.map (·.slotType) ∧ l.nullable = s.propertyFields.map (·.1.isNullable) := by
  obtain ⟨l', hown, h⟩ := bind_eq_ok.mp h
  obtain ⟨t, hderived, h⟩ := bind_eq_ok.mp h
  cases h
  obtain ⟨own, hall, hfields, hnodup, htypes, hnullable⟩ := addFieldProperties_eq_ok hown
  obtain ⟨derived, hall', hgetters, hdistinct⟩ := addDerivedProperties_eq_ok hderived
  exact ⟨own, derived, hall'.trans (congrArg (· ++ derived) hall), hfields, hgetters,
    hdistinct (hnodup List.nodup_nil), htypes, hnullable⟩

theorem mem_propertyFields {f : Field} {style : FieldStyle} (h : (f, style) ∈ s.propertyFields) :
    f ∈ s.fields ∧ f.style = some style := by
  obtain ⟨g, hg, h⟩ := List.mem_filterMap.mp h
  split at h
  · cases h
  · obtain ⟨style', hstyle, heq⟩ := Option.map_eq_some_iff.mp h
    cases heq
    exact ⟨hg, hstyle⟩

theorem mem_derivedGetters {m : Method} {name : String} {t : Ty}
    (h : (m, name, t) ∈ s.derivedGetters) :
    m ∈ s.methods ∧ m.derived = some name ∧ m.returns? = some t := by
  obtain ⟨m', hm, h⟩ := List.mem_filterMap.mp h
  obtain ⟨name', hname, h⟩ := Option.bind_eq_some_iff.mp h
  obtain ⟨t', ht, h⟩ := Option.bind_eq_some_iff.mp h
  cases h
  exact ⟨hm, hname, ht⟩

/-! ### Names -/

def ownNames (s : Schema) : List String :=
  (s.fields.filter fun f => f.style.isSome && !f.isStatic && !f.isInherited).map (·.name)

/-- The names of the properties that getters are marked to derive. -/
def derivedNames (s : Schema) : List String :=
  (s.methods.filter (·.returns?.isSome)).filterMap (·.derived)

theorem names_propertyFields (s : Schema) : s.propertyFields.map (·.1.name) = s.ownNames := by
  unfold propertyFields ownNames
  induction s.fields with
  | nil => rfl
  | cons f fields ih =>
    rw [List.filterMap_cons, List.filter_cons]
    cases hstyle : f.style <;> cases hs : f.isStatic <;> cases hi : f.isInherited <;>
      simpa using ih

theorem length_propertyFields (s : Schema) : s.propertyFields.length = s.ownNames.length := by
  rw [← names_propertyFields, List.length_map]

theorem names_derivedGetters (s : Schema) : s.derivedGetters.map (·.2.1) = s.derivedNames := by
  unfold derivedGetters derivedNames
  induction s.methods with
  | nil => rfl
  | cons m methods ih =>
    rw [List.filterMap_cons, List.filter_cons]
    cases hd : m.derived <;> cases hr : m.returns? <;> simpa [hd] using ih

theorem names_zipIdx_propertyFields (s : Schema) :
    s.propertyFields.zipIdx.map (·.1.1.name) = s.ownNames :=
  calc s.propertyFields.zipIdx.map (·.1.1.name)
    _ = (s.propertyFields.zipIdx.map Prod.fst).map (·.1.name) := by rw [List.map_map]; rfl
    _ = s.propertyFields.map (·.1.name) := by rw [List.zipIdx_map_fst]
    _ = s.ownNames := s.names_propertyFields

theorem names_of_allProperties {l : PropertyLayout} (h : s.allProperties kind = .ok l) :
    l.properties.map (·.name) = s.ownNames ++ s.derivedNames := by
  obtain ⟨own, derived, hall, hown, hderived, _⟩ := allProperties_eq_ok h
  have hfields : s.propertyFields.zipIdx.map (·.1.1.name) = own.map (·.name) :=
    map_eq_map_of_forall₂ hown fun x p hp => (fieldProperty_ofField hp).name.symm
  have hgetters : s.derivedGetters.map (·.2.1) = derived.map (·.name) :=
    map_eq_map_of_forall₂ hderived fun x p hp => (derivedProperty_ofGetter hp).name.symm
  rw [hall, List.map_append, ← hfields, ← hgetters, names_zipIdx_propertyFields, names_derivedGetters]

end Schema

/-! ### Properties that differ in their accessors -/

def Property.AlikeBy (R : Accessor → Accessor → Prop) (p q : Property) : Prop :=
  ∃ a, q = { p with accessor := a } ∧ R p.accessor a

namespace Schema

variable {s : Schema} {kind kind' : AccessorKind} {R : Accessor → Accessor → Prop}

theorem fieldProperty_sameOutcome {f : Field} {style : FieldStyle}
    (h : ∀ b type slotType, s.bindingOf f style = .ok (b, type, slotType) →
      SameOutcome R (Accessor.ofBinding? s b kind) (Accessor.ofBinding? s b kind')) (slot : Nat) :
    SameOutcome (Property.AlikeBy R) (s.fieldProperty kind slot f style)
      (s.fieldProperty kind' slot f style) := by
  rw [fieldProperty_eq, fieldProperty_eq]
  cases hb : s.bindingOf f style with
  | error e => exact .error e
  | ok x =>
    obtain ⟨b, type, slotType⟩ := x
    exact (h b type slotType hb).bind fun a a' haa' => .ok ⟨a', rfl, haa'⟩

theorem derivedProperty_sameOutcome {m : Method} {name : String} {type : Ty}
    (h : SameOutcome R (Accessor.ofBinding? s ⟨name, .getter m.name, none⟩ kind)
      (Accessor.ofBinding? s ⟨name, .getter m.name, none⟩ kind')) :
    SameOutcome (Property.AlikeBy R) (s.derivedProperty kind m name type)
      (s.derivedProperty kind' m name type) := by
  rw [derivedProperty_eq, derivedProperty_eq]
  exact h.bind fun a a' haa' => .ok ⟨a', rfl, haa'⟩

theorem insert_sameOutcome {t t' : PropertyTable} {p q : Property} (type : BeanType)
    (ht : List.Forall₂ (Property.AlikeBy R) t.properties t'.properties) (hpq : p.AlikeBy R q) :
    SameOutcome (fun r r' => List.Forall₂ (Property.AlikeBy R) r.properties r'.properties)
      (t.insert type p) (t'.insert type q) := by
  have hnames : t'.properties.map (·.name) = t.properties.map (·.name) := by
    refine (map_eq_map_of_forall₂ ht ?_).symm
    rintro p q ⟨a, rfl, -⟩
    rfl
  obtain ⟨a, rfl, ha⟩ := hpq
  have hcontains : t'.index.contains p.name = t.index.contains p.name := by
    rw [Bool.eq_iff_iff, PropertyTable.contains_index, PropertyTable.contains_index, hnames]
  unfold PropertyTable.insert
  simp only [hcontains]
  split
  · exact .error _
  · exact .ok (List.rel_append ht (.cons ⟨a, rfl, ha⟩ .nil))

structure PropertyLayout.AlikeBy (R : Accessor → Accessor → Prop) (l l' : PropertyLayout) : Prop where
  properties : List.Forall₂ (Property.AlikeBy R) l.properties l'.properties
  slotTypes : l.slotTypes = l'.slotTypes
  nullable : l.nullable = l'.nullable

theorem addFieldProperties_sameOutcome {s' : Schema} (htype : s'.type = s.type)
    {fields : List (Field × FieldStyle)}
    (h : ∀ x ∈ fields, ∀ slot, SameOutcome (Property.AlikeBy R) (s.fieldProperty kind slot x.1 x.2)
      (s'.fieldProperty kind' slot x.1 x.2)) {l l' : PropertyLayout} (hl : l.AlikeBy R l') :
    SameOutcome (PropertyLayout.AlikeBy R) (s.addFieldProperties kind l fields)
      (s'.addFieldProperties kind' l' fields) := by
  induction fields generalizing l l' with
  | nil => exact .ok hl
  | cons x fields ih =>
    unfold addFieldProperties
    rw [← hl.slotTypes, ← hl.nullable, htype]
    refine (h x List.mem_cons_self _).bind fun p q hpq => ?_
    refine (insert_sameOutcome s.type hl.properties hpq).bind fun t t' ht => ?_
    obtain ⟨a, rfl, -⟩ := hpq
    exact ih (fun y hy => h y (List.mem_cons_of_mem x hy)) ⟨ht, rfl, rfl⟩

theorem addDerivedProperties_sameOutcome {s' : Schema} (htype : s'.type = s.type)
    {getters : List (Method × String × Ty)}
    (h : ∀ x ∈ getters, SameOutcome (Property.AlikeBy R) (s.derivedProperty kind x.1 x.2.1 x.2.2)
      (s'.derivedProperty kind' x.1 x.2.1 x.2.2)) {t t' : PropertyTable}
    (ht : List.Forall₂ (Property.AlikeBy R) t.properties t'.properties) :
    SameOutcome (fun r r' => List.Forall₂ (Property.AlikeBy R) r.properties r'.properties)
      (s.addDerivedProperties kind t getters) (s'.addDerivedProperties kind' t' getters) := by
  induction getters generalizing t t' with
  | nil => exact .ok ht
  | cons x getters ih =>
    unfold addDerivedProperties
    rw [htype]
    refine (h x List.mem_cons_self).bind fun p q hpq => ?_
    refine (insert_sameOutcome s.type ht hpq).bind fun r r' hr => ?_
    exact ih (fun y hy => h y (List.mem_cons_of_mem x hy)) hr

/-- Where related accessors are made of every member, the properties are the same but for their accessors,
or refused for the same reason. -/
theorem allProperties_alike {s' : Schema} (htype : s'.type = s.type)
    (hfields : s'.propertyFields = s.propertyFields) (hgetters : s'.derivedGetters = s.derivedGetters)
    (hfield : ∀ x ∈ s.propertyFields, ∀ slot, SameOutcome (Property.AlikeBy R)
      (s.fieldProperty kind slot x.1 x.2) (s'.fieldProperty kind' slot x.1 x.2))
    (hderived : ∀ x ∈ s.derivedGetters, SameOutcome (Property.AlikeBy R)
      (s.derivedProperty kind x.1 x.2.1 x.2.2) (s'.derivedProperty kind' x.1 x.2.1 x.2.2)) :
    SameOutcome (PropertyLayout.AlikeBy R) (s.allProperties kind) (s'.allProperties kind') := by
  unfold allProperties
  rw [hfields, hgetters]
  have hempty : PropertyLayout.AlikeBy R ∅ ∅ := ⟨.nil, rfl, rfl⟩
  refine (addFieldProperties_sameOutcome htype hfield hempty).bind fun l l' hl => ?_
  refine (addDerivedProperties_sameOutcome htype hderived hl.properties).bind fun t t' ht => ?_
  exact .ok ⟨ht, hl.slotTypes, hl.nullable⟩

/-- Where two strategies make related accessors of every binding of the schema, its properties are the
same but for their accessors, or refused for the same reason. -/
theorem allProperties_sameOutcome
    (hfield : ∀ x ∈ s.propertyFields, ∀ b type slotType,
      s.bindingOf x.1 x.2 = .ok (b, type, slotType) →
        SameOutcome R (Accessor.ofBinding? s b kind) (Accessor.ofBinding? s b kind'))
    (hderived : ∀ x ∈ s.derivedGetters,
      SameOutcome R (Accessor.ofBinding? s ⟨x.2.1, .getter x.1.name, none⟩ kind)
        (Accessor.ofBinding? s ⟨x.2.1, .getter x.1.name, none⟩ kind')) :
    SameOutcome (PropertyLayout.AlikeBy R) (s.allProperties kind) (s.allProperties kind') :=
  allProperties_alike rfl rfl rfl (fun x hx => fieldProperty_sameOutcome (hfield x hx))
    fun x hx => derivedProperty_sameOutcome (hderived x hx)

end Schema

end Beans
