import Beans.Proofs.Members
import Beans.Proofs.Readers
/-!
# Types of what is read

Where the members of a schema read what they are declared to read, a property is read as a value of its
own type, or as null. For a property that is read through a getter this is the type that the getter
returns only if it is an `Option`, or that of the field anyway: the field decides about the others, and
nothing compares the two.
-/

set_option autoImplicit false

namespace Beans

/-- What is read from the bean is null or of the type. -/
def Reader.Gives (read : Reader) (t : Ty) (b : Bean) : Prop :=
  ∀ v, read b = .ok v → t.Admits v

/-- All fields and getters, those of ancestors as well, read from the bean what they are declared to. -/
structure Schema.ReadsTyped (s : Schema) (b : Bean) : Prop where
  field : ∀ f ∈ s.fields, ∀ read, f.reader = some read → read.Gives f.type b
  method : ∀ m ∈ s.methods, ∀ t read, m.body = .getter t read → read.Gives t b
  inherited : ∀ x ∈ s.ancestors, ∀ m ∈ x.methods, ∀ t read, m.body = .getter t read → read.Gives t b

/-- What a property has read, by the declaration that it comes from. -/
inductive Property.Shows (s : Schema) (p : Property) (v : Option Value) : Prop where
  /-- A field is read as what it holds if it is the first of its name. -/
  | field {f : Field} {style : FieldStyle} (declared : (f, style) ∈ s.propertyFields)
    (name : p.name = f.name) (direct : style ≠ .accessor)
    (typed : s.field? f.name = some f → p.type.Admits v)
  | getter {f : Field} {m : Method} {t : Ty} (declared : (f, .accessor) ∈ s.propertyFields)
    (name : p.name = f.name) (found : s.getterOf? f = some (m, t))
    (type : p.type = if t.isOption then t else f.type) (typed : t.Admits v)
  | derived {m : Method} {t : Ty} (declared : (m, p.name, t) ∈ s.derivedGetters)
    (typed : s.findMethod? m.name = some m → p.type.Admits v)

theorem Method.body_eq {m : Method} {t : Ty} {read : Reader} (hreturns : m.returns? = some t)
    (hreader : m.reader? = some read) : m.body = .getter t read := by
  unfold returns? at hreturns
  unfold reader? at hreader
  cases hbody : m.body with
  | getter t' read' =>
    rw [hbody] at hreturns hreader
    cases hreturns
    cases hreader
    rfl
  | setter param write =>
    rw [hbody] at hreturns
    cases hreturns

namespace Schema

variable {s : Schema} {b : Bean} {m : Method} {t : Ty}

theorem getter_of_readMemberOf {f : Field} {read : ReadMember}
    (h : s.readMemberOf f .accessor = .ok (read, t)) :
    ∃ m returns, s.getterOf? f = some (m, returns) ∧ read = .getter m.name ∧
      t = if returns.isOption then returns else f.type := by
  unfold readMemberOf at h
  simp only at h
  split at h
  · rename_i m returns hm
    cases h
    exact ⟨m, returns, hm, rfl, rfl⟩
  · cases h

theorem ReadsTyped.getter (hb : s.ReadsTyped b) {name : String} {read : Reader}
    (hm : s.findMethod? name = some m) (hreturns : m.returns? = some t)
    (hread : (ReadMember.getter name).find? s = some read) : read.Gives t b := by
  have hreader : m.reader? = some read := by
    rw [ReadMember.find?, hm] at hread
    exact hread
  have hbody := Method.body_eq hreturns hreader
  unfold findMethod? at hm
  obtain ⟨methods, hmethods, hm⟩ := List.exists_of_findSome?_eq_some hm
  have hmem : m ∈ methods := List.mem_of_find?_eq_some hm
  rcases List.mem_cons.mp hmethods with rfl | hmethods
  · exact hb.method m hmem t read hbody
  · obtain ⟨x, hx, rfl⟩ := List.mem_map.mp hmethods
    exact hb.inherited x hx m hmem t read hbody

theorem ReadsTyped.direct (hb : s.ReadsTyped b) {f : Field} {read : Reader}
    (hf : s.field? f.name = some f) (hread : (ReadMember.field f.name).find? s = some read) :
    read.Gives f.type b := by
  rw [ReadMember.find?, hf] at hread
  exact hb.field f (List.mem_of_find?_eq_some hf) read hread

end Schema

variable {s : Schema} {kind : AccessorKind} {b : Bean} {v : Option Value}

theorem Property.exists_read {p : Property} {binding : Binding} (hkind : kind ≠ .generated)
    (ha : Accessor.ofBinding? s binding kind = .ok p.accessor) (hv : p.get b = .ok v) :
    ∃ read, binding.read.find? s = some read ∧ read b = .ok v := by
  obtain ⟨read, write, hresolves, hagrees⟩ := Accessor.agrees_of_ofBinding? hkind ha
  have hread := (Property.get_eq_ok.mp hv).2
  rw [hagrees.read] at hread
  exact ⟨read, hresolves.read, Reader.invoke_eq_ok.mp hread⟩

namespace Descriptor

variable {d : Descriptor} {p : Property}

/-- What every property of a descriptor that looks its members up gets from a bean. -/
theorem get_shows (hkind : kind ≠ .generated) (h : (ofSchema s kind).result = .ok d)
    (hb : s.ReadsTyped b) (hp : p ∈ d.properties) (hv : p.get b = .ok v) : p.Shows s v := by
  rcases declared_of_mem h hp with ⟨f, style, slot, hf, hfield⟩ | ⟨m, name, t, hm, hgetter⟩
  · obtain ⟨binding, type, slotType, a, hbinding, ha, rfl⟩ := Schema.fieldProperty_eq_ok.mp hfield
    obtain ⟨-, hmember, -⟩ := Schema.members_of_bindingOf hbinding
    obtain ⟨read, hread, hvalue⟩ := Property.exists_read hkind ha hv
    by_cases hstyle : style = .accessor
    · subst hstyle
      obtain ⟨m, t, hm, hgetter, htype⟩ := Schema.getter_of_readMemberOf hmember
      rw [hgetter] at hread
      obtain ⟨hfind, -, hreturns⟩ := Schema.getterOf?_eq_some hm
      exact .getter hf rfl hm htype (hb.getter hfind hreturns hread v hvalue)
    · obtain ⟨hgetter, htype⟩ := Schema.eq_field_of_readMemberOf hstyle hmember
      rw [hgetter] at hread
      refine .field hf rfl hstyle fun hfirst => ?_
      change type.Admits v
      rw [htype]
      exact hb.direct hfirst hread v hvalue
  · obtain ⟨a, ha, rfl⟩ := Schema.derivedProperty_eq_ok.mp hgetter
    obtain ⟨read, hread, hvalue⟩ := Property.exists_read hkind ha hv
    obtain ⟨-, -, hreturns⟩ := Schema.mem_derivedGetters hm
    exact .derived hm fun hfirst => hb.getter hfirst hreturns hread v hvalue

/-- A waypoint with a label that is there. -/
def north : Bean :=
  ⟨waypoint.type, [some (.option .string (some (.ofString "north"))), some (.ofInt .i32 12)]⟩

theorem waypoint_readsTyped : waypoint.ReadsTyped north := by
  constructor
  case field =>
    intro f hf read hread v hv
    simp only [waypoint, List.mem_cons, List.not_mem_nil, or_false] at hf
    rcases hf with rfl | rfl | rfl | rfl <;> cases hread
    cases hv
    exact Ty.admits_some.mpr rfl
  case method =>
    intro m hm t read hbody v hv
    cases List.mem_singleton.mp hm
    cases hbody
    cases hv
    exact Ty.admits_some.mpr rfl
  case inherited =>
    intro x hx m hm t read hbody v hv
    cases List.mem_singleton.mp hx
    cases List.mem_singleton.mp hm
    cases hbody
    cases hv
    exact Ty.admits_some.mpr rfl

theorem waypoint_shows :
    ∃ d p, (ofSchema waypoint .reflective).result = .ok d ∧ d.property "label" = .ok p ∧
      p.get north = .ok (some (.option .string (some (.ofString "north")))) ∧
      p.Shows waypoint (some (.option .string (some (.ofString "north")))) := by
  refine ⟨_, _, rfl, rfl, rfl, ?_⟩
  exact @get_shows waypoint .reflective north _ _ _ nofun rfl waypoint_readsTyped List.mem_cons_self rfl

/-- The getter of the height returns a text. -/
def signpost : Schema :=
  let type : BeanType := ⟨"atlas", "Signpost", .row⟩
  { type
    fields := [{ name := "height", type := .int .u32, style := some .accessor }]
    methods := [{
      name := "get_height"
      body := .getter .string (ReadRule.reader type (.constant (.ofString "high"))) }]
    constructors := [{
      params := [.int .u32]
      invoke := BuildRule.invoke (.row type [.required (.int .u32) 0] []) }] }

/-- All members read what they are declared to, and the property reads a value of another type. -/
theorem signpost_mistyped :
    ∃ d p, (ofSchema signpost .handle).result = .ok d ∧ (∀ b, signpost.ReadsTyped b) ∧
      p ∈ d.properties ∧ p.type = .int .u32 ∧
      p.get ⟨signpost.type, [some (.ofInt .u32 7)]⟩ = .ok (some (.ofString "high")) ∧
      ¬ p.type.Admits (some (.ofString "high")) := by
  refine ⟨_, _, rfl, fun b => ⟨?_, ?_, fun _ hx => nomatch hx⟩, List.mem_cons_self, rfl, rfl, ?_⟩
  · intro f hf read hread
    cases List.mem_singleton.mp hf
    cases hread
  · intro m hm t read hbody v hv
    cases List.mem_singleton.mp hm
    cases hbody
    cases hv
    exact Ty.admits_some.mpr rfl
  · intro h
    cases Ty.admits_some.mp h

end Descriptor

end Beans
