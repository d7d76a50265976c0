import Beans.Proofs.Descriptor
/-!
# Members behind properties

Which declarations become properties is decided declaration by declaration, but the members that a
property calls are looked up by name. The two come apart where an earlier declaration has the same name,
whether it is a property or not: then what this one has is called. Later declarations are of no account.
-/

set_option autoImplicit false

namespace Beans

/-! ### The first declaration of a name -/

theorem find?_of_split {α : Type} (name : α → String) (before : List α) (a : α) (after : List α) :
    (before ++ a :: after).find? (fun x => name x == name a) =
      some ((before.find? fun x => name x == name a).getD a) := by
  have hown : (a :: after).find? (fun x => name x == name a) = some a :=
    List.find?_cons_of_pos (beq_self_eq_true (name a))
  rw [List.find?_append, hown]
  cases before.find? fun x => name x == name a <;> rfl

/-- What is called is what an earlier declaration has, if there is one, and else what the own one has. -/
structure FirstDecides {α : Type} (calls : Option α → Prop) (earlier : Option (Option α))
    (declared : Option α) : Prop where
  first : ∀ x, earlier = some x → calls x
  own : calls declared ↔ ∀ x, earlier = some x → x = declared

theorem FirstDecides.of_getD {α β : Type} {calls : Option α → Prop} {earlier : Option β} {own : β}
    {has : β → Option α} (hunique : ∀ x y, calls x → calls y → x = y)
    (h : calls (has (earlier.getD own))) : FirstDecides calls (earlier.map has) (has own) := by
  cases earlier with
  | none => exact ⟨nofun, fun _ => nofun, fun _ => h⟩
  | some a =>
    have hcalls : calls (has a) := h
    constructor
    case first =>
      intro x hx
      cases hx
      exact hcalls
    case own =>
      constructor
      · intro hown x hx
        cases hx
        exact hunique _ _ hcalls hown
      · intro hsame
        rw [← hsame (has a) rfl]
        exact hcalls

namespace Schema

variable {s : Schema}

theorem field?_of_split {before after : List Field} {f : Field} (hs : s.fields = before ++ f :: after) :
    s.field? f.name = some ((before.find? (·.name == f.name)).getD f) := by
  unfold field?
  rw [hs]
  exact find?_of_split Field.name before f after

theorem findMethod?_of_split {before after : List Method} {m : Method}
    (hs : s.methods = before ++ m :: after) :
    s.findMethod? m.name = some ((before.find? (·.name == m.name)).getD m) := by
  unfold findMethod?
  rw [List.findSome?_cons, hs, find?_of_split Method.name before m after]

/-- The members that a property is bound to are those of its field. -/
theorem members_of_bindingOf {f : Field} {style : FieldStyle} {b : Binding} {type slotType : Ty}
    (h : s.bindingOf f style = .ok (b, type, slotType)) :
    b.property = f.name ∧ s.readMemberOf f style = .ok (b.read, type) ∧
      (s.isMutable = true →
        ∃ w, b.write = some w ∧ s.writeMemberOf f style = .ok (w, slotType)) := by
  obtain ⟨read, hread, ⟨hmutable, w, hw, rfl⟩ | ⟨himmutable, -, rfl⟩⟩ := bindingOf_eq_ok h
  · exact ⟨rfl, hread, fun _ => ⟨w, rfl, hw⟩⟩
  · refine ⟨rfl, hread, fun hmutable => ?_⟩
    rw [himmutable] at hmutable
    cases hmutable

theorem eq_field_of_readMemberOf {f : Field} {style : FieldStyle} {read : ReadMember} {t : Ty}
    (hstyle : style ≠ .accessor) (h : s.readMemberOf f style = .ok (read, t)) :
    read = .field f.name ∧ t = f.type := by
  cases style with
  | accessor => exact absurd rfl hstyle
  | field | optional =>
    cases h
    exact ⟨rfl, rfl⟩

theorem eq_field_of_writeMemberOf {f : Field} {style : FieldStyle} {write : WriteMember} {t : Ty}
    (hsetter : s.setterOf? f style = none) (h : s.writeMemberOf f style = .ok (write, t)) :
    write = .field f.name := by
  unfold writeMemberOf at h
  rw [hsetter] at h
  simp only at h
  split at h
  · cases h
    rfl
  · cases h

end Schema

/-! ### Functions that are called -/

theorem eq_of_mapError {ε ε' α : Type} {f : ε → ε'} (hf : Function.Injective f) {x y : Except ε α}
    (h : x.mapError f = y.mapError f) : x = y := by
  cases x with
  | ok a =>
    cases y with
    | ok a' =>
      cases h
      rfl
    | error e => cases h
  | error e =>
    cases y with
    | ok a => cases h
    | error e' => rw [hf (Except.error.inj h)]

theorem invocationFailed_injective (name : String) :
    Function.Injective (BeanError.invocationFailed name) := by
  intro e e' h
  cases h
  rfl

theorem Reader.eq_of_invoke {read read' : Reader} {name : String}
    (h : read.invoke name = read'.invoke name) : read = read' := by
  funext b
  exact eq_of_mapError (invocationFailed_injective name) (congrFun h b)

theorem Writer.eq_of_invoke {write write' : Writer} {name : String}
    (h : write.invoke name = write'.invoke name) : write = write' := by
  funext v b
  have hb : ((write v b).1.mapError (BeanError.invocationFailed name), (write v b).2) =
      ((write' v b).1.mapError (.invocationFailed name), (write' v b).2) := congrFun (congrFun h v) b
  obtain ⟨houtcome, hleft⟩ := Prod.mk.inj hb
  exact Prod.ext (eq_of_mapError (invocationFailed_injective name) houtcome) hleft

namespace Property

def ReadsBy (p : Property) (read : Option Reader) : Prop :=
  ∃ r, read = some r ∧ p.accessor.read = r.invoke p.name

def WritesBy (p : Property) (write : Option Writer) : Prop :=
  ∃ w, write = some w ∧ p.accessor.write = w.invoke p.name

variable {p : Property}

theorem ReadsBy.unique (read read' : Option Reader) (h : p.ReadsBy read) (h' : p.ReadsBy read') :
    read = read' := by
  obtain ⟨r, rfl, hr⟩ := h
  obtain ⟨r', rfl, hr'⟩ := h'
  exact congrArg some (Reader.eq_of_invoke (hr.symm.trans hr'))

theorem WritesBy.unique (write write' : Option Writer) (h : p.WritesBy write)
    (h' : p.WritesBy write') : write = write' := by
  obtain ⟨w, rfl, hw⟩ := h
  obtain ⟨w', rfl, hw'⟩ := h'
  exact congrArg some (Writer.eq_of_invoke (hw.symm.trans hw'))

end Property

/-! ### Properties and their declarations -/

namespace Descriptor

variable {s : Schema} {kind : AccessorKind} {d : Descriptor}

theorem exists_fieldProperty (h : (ofSchema s kind).result = .ok d) {f : Field} {style : FieldStyle}
    (hf : (f, style) ∈ s.propertyFields) :
    ∃ p slot, d.property f.name = .ok p ∧ s.fieldProperty kind slot f style = .ok p := by
  obtain ⟨own, derived, hall, hown, -, -, -⟩ := properties_of_ofSchema h
  obtain ⟨slot, hslot⟩ := List.mem_iff_getElem?.mp hf
  have hx : s.propertyFields.zipIdx[slot]? = some ((f, style), slot) := by
    rw [List.getElem?_zipIdx, hslot, Nat.zero_add]
    rfl
  obtain ⟨p, hp, hfield⟩ := exists_getElem?_left hown.flip hx
  refine ⟨p, slot, ((ofSchema_wellFormed h).property f.name p).mpr ⟨?_, ?_⟩, hfield⟩
  · rw [hall]
    exact List.mem_append_left derived (List.mem_of_getElem? hp)
  · exact (Schema.fieldProperty_ofField hfield).name

theorem exists_derivedProperty (h : (ofSchema s kind).result = .ok d) {m : Method} {name : String}
    {t : Ty} (hm : (m, name, t) ∈ s.derivedGetters) :
    ∃ p, d.property name = .ok p ∧ s.derivedProperty kind m name t = .ok p := by
  obtain ⟨own, derived, hall, -, hderived, -, -⟩ := properties_of_ofSchema h
  obtain ⟨i, hi⟩ := List.mem_iff_getElem?.mp hm
  obtain ⟨p, hp, hgetter⟩ := exists_getElem?_left hderived.flip hi
  refine ⟨p, ((ofSchema_wellFormed h).property name p).mpr ⟨?_, ?_⟩, hgetter⟩
  · rw [hall]
    exact List.mem_append_right own (List.mem_of_getElem? hp)
  · exact (Schema.derivedProperty_ofGetter hgetter).name

/-- What the properties of a descriptor call, for each declaration and whatever stands before and behind
it: those of the first declarations of the same names, and so their own exactly if these are the same. -/
structure CallsFirst (s : Schema) (d : Descriptor) : Prop where
  field : ∀ before f after style, s.fields = before ++ f :: after → (f, style) ∈ s.propertyFields →
    ∃ p, d.property f.name = .ok p ∧
      (style ≠ .accessor →
        FirstDecides p.ReadsBy ((before.find? (·.name == f.name)).map (·.reader)) f.reader) ∧
      (s.isMutable = true → s.setterOf? f style = none →
        FirstDecides p.WritesBy ((before.find? (·.name == f.name)).map (·.writer)) f.writer)
  getter : ∀ before m after name t, s.methods = before ++ m :: after →
    (m, name, t) ∈ s.derivedGetters →
    ∃ p, d.property name = .ok p ∧
      FirstDecides p.ReadsBy ((before.find? (·.name == m.name)).map (·.reader?)) m.reader?

section Calls

variable {b : Binding} {p : Property} {read : Reader} {write : Option Writer}

theorem reads_of_resolves (hresolves : b.Resolves s read write)
    (hagrees : p.accessor.Agrees (.handle ⟨p.name, read, write⟩)) : p.ReadsBy (b.read.find? s) :=
  ⟨read, hresolves.read, hagrees.read⟩

theorem writes_of_resolves (hresolves : b.Resolves s read write)
    (hagrees : p.accessor.Agrees (.handle ⟨p.name, read, write⟩)) {member : WriteMember}
    (hmember : b.write = some member) : p.WritesBy (member.find? s) := by
  have hwrite := hresolves.write
  rw [hmember, Option.map_some] at hwrite
  obtain ⟨w, rfl, hfind⟩ := Option.map_eq_some_iff.mp hwrite.symm
  exact ⟨w, hfind.symm, hagrees.write⟩

end Calls

/-- Every descriptor that looks its members up calls the first ones. -/
theorem ofSchema_callsFirst (hkind : kind ≠ .generated) (h : (ofSchema s kind).result = .ok d) :
    d.CallsFirst s := by
  constructor
  case field =>
    intro before f after style hs hf
    obtain ⟨p, slot, hp, hfield⟩ := exists_fieldProperty h hf
    obtain ⟨b, type, slotType, a, hb, ha, rfl⟩ := Schema.fieldProperty_eq_ok.mp hfield
    obtain ⟨read, write, hresolves, hagrees⟩ := Accessor.agrees_of_ofBinding? hkind ha
    obtain ⟨hproperty, hread, hwrite⟩ := Schema.members_of_bindingOf hb
    rw [hproperty] at hagrees
    let p := s.propertyOf slot f type slotType a
    have hfirst := Schema.field?_of_split hs
    refine ⟨p, hp, fun hstyle => ?_, fun hmutable hsetter => ?_⟩
    · have hreads : p.ReadsBy (b.read.find? s) := reads_of_resolves hresolves hagrees
      rw [(Schema.eq_field_of_readMemberOf hstyle hread).1, ReadMember.find?, hfirst] at hreads
      exact .of_getD Property.ReadsBy.unique hreads
    · obtain ⟨member, hmember, hw⟩ := hwrite hmutable
      have hwrites : p.WritesBy (member.find? s) := writes_of_resolves hresolves hagrees hmember
      rw [Schema.eq_field_of_writeMemberOf hsetter hw, WriteMember.find?, hfirst] at hwrites
      exact .of_getD Property.WritesBy.unique hwrites
  case getter =>
    intro before m after name t hs hm
    obtain ⟨p, hp, hgetter⟩ := exists_derivedProperty h hm
    obtain ⟨a, ha, rfl⟩ := Schema.derivedProperty_eq_ok.mp hgetter
    obtain ⟨read, write, hresolves, hagrees⟩ := Accessor.agrees_of_ofBinding? hkind ha
    have hreads : (s.derivedOf m name t a).ReadsBy _ := reads_of_resolves hresolves hagrees
    rw [ReadMember.find?, Schema.findMethod?_of_split hs] at hreads
    exact ⟨_, hp, .of_getD Property.ReadsBy.unique hreads⟩

/-- A static field stands before the field of its name, and a getter before the one of its name that derives
a property. -/
def banner : Schema :=
  let type : BeanType := ⟨"atlas", "Banner", .row⟩
  { type
    fields := [
      { name := "width", type := .int .u32, isStatic := true
        reader := some (ReadRule.reader type (.constant (.ofInt .u32 1))) },
      { name := "width", type := .int .u32, style := some .field
        reader := some (ReadRule.reader type (.cell 0 false)) }]
    methods := [
      { name := "get_area"
        body := .getter (.int .u32) (ReadRule.reader type (.constant (.ofInt .u32 2))) },
      { name := "get_area", derived := some "area"
        body := .getter (.int .u32) (ReadRule.reader type (.cell 0 false)) }]
    constructors := [{
      params := [.int .u32]
      invoke := BuildRule.invoke (.row type [.required (.int .u32) 0] []) }] }

theorem banner_callsFirst :
    ∃ d, (ofSchema banner .reflective).result = .ok d ∧ d.CallsFirst banner :=
  ⟨_, rfl, @ofSchema_callsFirst banner .reflective _ nofun rfl⟩

/-- Neither property calls the member that declares it. -/
theorem banner_not_own :
    ∃ d f m p q, (ofSchema banner .handle).result = .ok d ∧ (f, .field) ∈ banner.propertyFields ∧
      (m, "area", .int .u32) ∈ banner.derivedGetters ∧
      d.property f.name = .ok p ∧ ¬ p.ReadsBy f.reader ∧
      d.property "area" = .ok q ∧ ¬ q.ReadsBy m.reader? := by
  let b : Bean := ⟨banner.type, [some (.ofInt .u32 7)]⟩
  have hne (n : Int) (hn : n ≠ 7) :
      (Except.ok (some (.ofInt .u32 n)) : Except BeanError (Option Value)) ≠
        .ok (some (.ofInt .u32 7)) := by
    intro h
    cases h
    exact hn rfl
  refine ⟨_, _, _, _, _, rfl, List.mem_cons_self, List.mem_cons_self, rfl, ?_, rfl, ?_⟩
  · rintro ⟨r, hr, hread⟩
    cases hr
    exact hne 1 (by decide) (congrFun hread b)
  · rintro ⟨r, hr, hread⟩
    cases hr
    exact hne 2 (by decide) (congrFun hread b)

end Descriptor

end Beans
