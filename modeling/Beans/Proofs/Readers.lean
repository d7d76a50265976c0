import Beans.Proofs.DeclaredSchema
import Beans.Proofs.Descriptor
import Beans.Proofs.ValueEquality
import Beans.Proofs.Writing
/-!
# Where properties are read from

What a property reads is read by a member of the schema: by a field, by a method of its own or of one that
it extends, or by a generated accessor. The strategy only decides by which. So if the members read nothing
but what a program can have, then neither do the properties. Members of rows and of declared beans do that.
-/

set_option autoImplicit false

namespace Beans

namespace Schema

inductive HasReader (s : Schema) : Reader → Prop where
  | field {f : Field} {read : Reader} (hf : f ∈ s.fields) (h : f.reader = some read) :
    s.HasReader read
  | method {m : Method} {read : Reader} (hm : m ∈ s.methods) (h : m.reader? = some read) :
    s.HasReader read
  | inherited {x : Ancestor} {m : Method} {read : Reader} (hx : x ∈ s.ancestors)
    (hm : m ∈ x.methods) (h : m.reader? = some read) : s.HasReader read
  | generated {e : GeneratedAccess} (he : e ∈ s.generated) : s.HasReader e.read

variable {s : Schema} {read : Reader}

theorem hasReader_of_findMethod? {name : String} {m : Method} (hm : s.findMethod? name = some m)
    (h : m.reader? = some read) : s.HasReader read := by
  unfold findMethod? at hm
  obtain ⟨methods, hmethods, hm⟩ := List.exists_of_findSome?_eq_some hm
  have hmem := List.mem_of_find?_eq_some hm
  rcases List.mem_cons.mp hmethods with rfl | hmethods
  · exact .method hmem h
  · obtain ⟨x, hx, rfl⟩ := List.mem_map.mp hmethods
    exact .inherited hx hmem h

theorem hasReader_of_find? {member : ReadMember} (h : member.find? s = some read) :
    s.HasReader read := by
  cases member with
  | field name =>
    obtain ⟨f, hf, hread⟩ := Option.bind_eq_some_iff.mp h
    exact .field (List.mem_of_find?_eq_some hf) hread
  | getter name =>
    obtain ⟨m, hm, hread⟩ := Option.bind_eq_some_iff.mp h
    exact hasReader_of_findMethod? hm hread

end Schema

variable {s : Schema} {kind : AccessorKind} {b : Bean} {v : Option Value}

theorem Reader.invoke_eq_ok {read : Reader} {name : String} :
    read.invoke name b = .ok v ↔ read b = .ok v :=
  mapError_eq_ok

/-- What the accessor of a binding reads is read by a member, under every strategy. -/
theorem Accessor.exists_reader {binding : Binding} {a : Accessor}
    (h : Accessor.ofBinding? s binding kind = .ok a) :
    ∃ read, s.HasReader read ∧ ∀ b v, a.read b = .ok v → read b = .ok v := by
  by_cases hkind : kind = .generated
  · subst hkind
    obtain ⟨a, ha, rfl⟩ := map_eq_ok.mp h
    have hentry := (GeneratedAccessor.entry_of_ofBinding? ha).1
    exact ⟨a.entry.read, .generated (List.mem_of_find?_eq_some hentry),
      fun b v hv => Reader.invoke_eq_ok.mp hv⟩
  · obtain ⟨read, write, hresolves, hagrees⟩ := Accessor.agrees_of_ofBinding? hkind h
    refine ⟨read, Schema.hasReader_of_find? hresolves.read, fun b v hv => ?_⟩
    rw [hagrees.read] at hv
    exact Reader.invoke_eq_ok.mp hv

theorem Property.get_eq_ok {p : Property} :
    p.get b = .ok v ↔ b.type = p.declaringType ∧ p.accessor.read b = .ok v := by
  unfold get checkBean
  by_cases h : b.type = p.declaringType
  · simp [h, bind, Except.bind]
  · simp [h, bind, Except.bind]

theorem Descriptor.exists_reader {d : Descriptor} (h : (ofSchema s kind).result = .ok d)
    {p : Property} (hp : p ∈ d.properties) :
    ∃ read, s.HasReader read ∧ ∀ b v, p.get b = .ok v → read b = .ok v := by
  have haccessor : ∃ binding, Accessor.ofBinding? s binding kind = .ok p.accessor := by
    rcases declared_of_mem h hp with ⟨f, style, slot, -, hfield⟩ | ⟨m, name, t, -, hgetter⟩
    · obtain ⟨binding, _, _, a, -, ha, rfl⟩ := Schema.fieldProperty_eq_ok.mp hfield
      exact ⟨binding, ha⟩
    · obtain ⟨a, ha, rfl⟩ := Schema.derivedProperty_eq_ok.mp hgetter
      exact ⟨_, ha⟩
  obtain ⟨binding, ha⟩ := haccessor
  obtain ⟨read, hread, hreads⟩ := Accessor.exists_reader ha
  exact ⟨read, hread, fun b v hv => hreads b v (Property.get_eq_ok.mp hv).2⟩

theorem MemberRead.lift_ne_compute {read : MemberRead Empty} {f : Compute} :
    read.lift ≠ .compute f := by
  cases read with
  | whole cell => exact nofun
  | content cell => exact nofun
  | compute f => exact f.elim

/-! ### Reading values as a program can have them -/

variable [Traits]

/-- What is read from a bean as a program can have it, a program can have. -/
def Reader.ReadsProper (read : Reader) : Prop :=
  ∀ (b : Bean) (v : Value), b.toValue.Proper → read b = .ok (some v) → v.Proper

def Schema.ReadsProper (s : Schema) : Prop :=
  ∀ read, s.HasReader read → read.ReadsProper

/-- The descriptor was made from such a schema, and may have got a converter of its own. -/
inductive Descriptor.ReadsProper : Descriptor → Prop where
  | ofSchema {s : Schema} {kind : AccessorKind} {d : Descriptor} (hs : s.ReadsProper)
    (h : (Descriptor.ofSchema s kind).result = .ok d) (converter : ConverterChoice) :
    ReadsProper { d with converter }

namespace Descriptor.ReadsProper

variable {d : Descriptor}

theorem distinct (hd : d.ReadsProper) : (d.properties.map (·.name)).Nodup := by
  cases hd with
  | ofSchema _ h _ =>
    obtain ⟨_, _, -, -, -, hdistinct, -⟩ := properties_of_ofSchema h
    exact hdistinct

theorem get (hd : d.ReadsProper) (hb : b.toValue.Proper) {p : Property} (hp : p ∈ d.properties)
    {v : Value} (hv : p.get b = .ok (some v)) : v.Proper := by
  cases hd with
  | ofSchema hs h _ =>
    obtain ⟨read, hread, hreads⟩ := exists_reader h hp
    exact hs read hread b v hb (hreads b (some v) hv)

theorem withConverter (hd : d.ReadsProper) (converter : ConverterChoice) :
    { d with converter }.ReadsProper := by
  cases hd with
  | ofSchema hs h _ => exact .ofSchema hs h converter

end Descriptor.ReadsProper

/-! ### Members of rows and of declared beans -/

namespace Bean

theorem cell?_proper (hb : b.toValue.Proper) {i : Nat} {v : Value} (hv : b.cell? i = some v) :
    v.Proper := by
  have hmem : some v ∈ b.cells := List.mem_of_getElem? (Option.join_eq_some_iff.mp hv)
  exact hb.part (Value.mem_parts_bean.mpr hmem)

end Bean

theorem ReadRule.reader_readsProper {type : BeanType} {rule : ReadRule}
    (hconstant : ∀ v, rule = .constant v → v.Proper) : (rule.reader type).ReadsProper := by
  intro b v hb hv
  cases rule with
  | refuse e => cases hv
  | null => cases hv
  | typeName =>
    cases hv
    exact ⟨trivial, .intro trivial nofun⟩
  | constant w =>
    cases hv
    exact hconstant v rfl
  | cell index isOpen =>
    obtain ⟨b', hb', hcell⟩ := map_eq_ok.mp hv
    cases Bean.eq_of_opened hb'
    exact Bean.cell?_proper hb hcell

theorem MemberRead.reader_readsProper {read : MemberRead Compute} {type : BeanType}
    (hcompute : ∀ f, read = .compute f → ∀ b : Bean, b.toValue.Proper → (f b).Proper) :
    (read.reader type).ReadsProper := by
  intro b v hb hv
  obtain ⟨b', hb', hv⟩ := bind_eq_ok.mp hv
  cases Bean.eq_of_instanceOf hb'
  cases read with
  | whole cell => exact Bean.cell?_proper hb (Except.ok.inj hv)
  | content cell =>
    obtain ⟨w, hw, hcontent⟩ := Option.bind_eq_some_iff.mp (Except.ok.inj hv)
    have hproper := Bean.cell?_proper hb hw
    unfold Value.content? at hcontent
    split at hcontent
    · exact hproper.part (Value.mem_parts_option.mpr hcontent)
    · cases hcontent
      exact hproper
  | compute f =>
    cases hv
    exact hcompute f rfl b hb

/-- If the functions that compute derived properties come to values as a program can have them, all that
is read from a declared bean is such a value. -/
theorem BeanDeclaration.schemaWith_readsProper {d : ResolvedDeclaration} {home : String}
    {defaults : List (Option Value)}
    (hcompute : ∀ x ∈ d.derived, ∀ b : Bean, b.toValue.Proper → (x.compute b).Proper) :
    (d.schemaWith home defaults).ReadsProper := by
  have hfield (read : MemberRead Empty) (type : BeanType) :
      (MemberRead.reader type read.lift).ReadsProper :=
    MemberRead.reader_readsProper fun _ h => (MemberRead.lift_ne_compute h).elim
  have hderived (x : DerivedDeclaration Ty Compute) (hx : x ∈ d.derived) (type : BeanType) :
      (MemberRead.reader type (.compute x.compute)).ReadsProper := by
    refine MemberRead.reader_readsProper fun f hf => ?_
    cases hf
    exact hcompute x hx
  intro read hread
  cases hread with
  | field hf h =>
    obtain ⟨p, -, rfl⟩ := exists_of_mem_fields hf
    cases h
    exact hfield p.fieldRead _
  | method hm h =>
    rcases exists_of_mem_methods hm with ⟨p, -, o, ho, rfl⟩ | ⟨x, hx, rfl⟩
    · rcases DeclaredProperty.eq_of_mem_outlineMethods ho with rfl | ⟨write, -, rfl⟩
      · cases h
        exact hfield p.propertyRead _
      · cases h
    · cases h
      exact hderived x hx _
  | inherited hx => cases hx
  | generated he =>
    rw [generated_schemaWith] at he
    rcases List.mem_append.mp he with he | he
    · obtain ⟨p, -, rfl⟩ := List.mem_map.mp he
      exact hfield p.propertyRead _
    · obtain ⟨x, hx, rfl⟩ := List.mem_map.mp he
      exact hderived x hx _

end Beans
