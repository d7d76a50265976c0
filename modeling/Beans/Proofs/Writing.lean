import Beans.Declaration.Schema
import Beans.Proofs.Acceptance
import Beans.Proofs.Assignments
/-!
# Writing into new beans

A mutable bean is built by writing what was collected into a new instance. This comes to the same as
setting the properties of the instance directly, those that were assigned to and no others, in the order
of the properties: to the values that were offered last, or to what the builder held for them. Writers
have to change a bean in place, so that it stays one of its type.
-/

set_option autoImplicit false

namespace Beans

/-! ### Writers -/

/-- A writer changes a bean in place: afterwards, also where it fails, the bean is still of its type. -/
def Writer.InPlace (w : Writer) : Prop :=
  ∀ v b, (w v b).2.type = b.type

structure Schema.WritesInPlace (s : Schema) : Prop where
  field : ∀ f ∈ s.fields, ∀ w, f.writer = some w → w.InPlace
  method : ∀ m ∈ s.methods, ∀ w, m.writer? = some w → w.InPlace
  inherited : ∀ a ∈ s.ancestors, ∀ m ∈ a.methods, ∀ w, m.writer? = some w → w.InPlace
  generated : ∀ g ∈ s.generated, ∀ w, g.write = some w → w.InPlace

def Accessor.InPlace (a : Accessor) : Prop :=
  ∀ v b, (a.write v b).2.type = b.type

theorem Writer.InPlace.invoke {w : Writer} (h : w.InPlace) (name : String) (v : Option Value)
    (b : Bean) : (w.invoke name v b).2.type = b.type :=
  h v b

namespace Schema.WritesInPlace

variable {s : Schema} {kind : AccessorKind} {d : Descriptor}

theorem find? (h : s.WritesInPlace) {m : WriteMember} {w : Writer} (hw : m.find? s = some w) :
    w.InPlace := by
  cases m with
  | field name =>
    obtain ⟨f, hf, hw⟩ := Option.bind_eq_some_iff.mp hw
    exact h.field f (List.mem_of_find?_eq_some hf) w hw
  | setter name =>
    obtain ⟨m, hm, hw⟩ := Option.bind_eq_some_iff.mp hw
    obtain ⟨methods, hmethods, hm⟩ := List.exists_of_findSome?_eq_some hm
    have hmem : m ∈ methods := List.mem_of_find?_eq_some hm
    rcases List.mem_cons.mp hmethods with rfl | hmethods
    · exact h.method m hmem w hw
    · obtain ⟨a, ha, rfl⟩ := List.mem_map.mp hmethods
      exact h.inherited a ha m hmem w hw

theorem accessor (h : s.WritesInPlace) {b : Binding} {a : Accessor}
    (ha : Accessor.ofBinding? s b kind = .ok a) : a.InPlace := by
  intro v bean
  by_cases hkind : kind = .generated
  · subst hkind
    obtain ⟨r, hr, rfl⟩ := map_eq_ok.mp ha
    obtain ⟨hentry, _⟩ := GeneratedAccessor.entry_of_ofBinding? hr
    have hmem : r.entry ∈ s.generated := List.mem_of_find?_eq_some hentry
    cases hw : r.entry.write with
    | none =>
      simp only [Accessor.write, GeneratedAccessor.write, hw]
      rfl
    | some w =>
      simp only [Accessor.write, GeneratedAccessor.write, hw]
      cases r.isWritable with
      | false => rfl
      | true => exact (h.generated r.entry hmem w hw).invoke r.entry.name v bean
  · obtain ⟨read, write, hresolves, hagrees⟩ := Accessor.agrees_of_ofBinding? hkind ha
    rw [hagrees.write]
    cases write with
    | none => rfl
    | some w =>
      obtain ⟨m, _, hm⟩ := Option.map_eq_some_iff.mp hresolves.write
      exact (h.find? hm).invoke b.property v bean

/-- Properties of the schema belong to beans of its type, and are written in place. -/
theorem property (h : s.WritesInPlace) (hd : (Descriptor.ofSchema s kind).result = .ok d)
    {p : Property} (hp : p ∈ d.properties) : p.declaringType = s.type ∧ p.accessor.InPlace := by
  rcases Descriptor.declared_of_mem hd hp with ⟨f, style, slot, -, hfield⟩ | ⟨m, name, t, -, hgetter⟩
  · obtain ⟨b, type, slotType, a, _, ha, rfl⟩ := Schema.fieldProperty_eq_ok.mp hfield
    exact ⟨rfl, h.accessor ha⟩
  · obtain ⟨a, ha, rfl⟩ := Schema.derivedProperty_eq_ok.mp hgetter
    exact ⟨rfl, h.accessor ha⟩

end Schema.WritesInPlace

/-! ### Writers of declared beans and rows -/

theorem Bean.eq_of_instanceOf {b c : Bean} {type : BeanType} (h : b.instanceOf type = .ok c) :
    c = b := by
  unfold instanceOf at h
  split at h
  · cases h
    rfl
  · cases h

theorem Bean.eq_of_opened {b c : Bean} {type : BeanType} {isOpen : Bool}
    (h : b.opened type isOpen = .ok c) : c = b := by
  unfold opened at h
  split at h
  · cases h
    rfl
  · exact eq_of_instanceOf h

theorem MemberWrite.writer_inPlace (type : BeanType) (w : MemberWrite Ty) :
    (w.writer type).InPlace := by
  intro v b
  unfold writer
  rw [Stateful.bind_of_ok (Stateful.getThe_apply b)]
  cases hb : b.instanceOf type with
  | error e => rw [Stateful.bind_of_error (Stateful.ofExcept_error e b)]
  | ok c =>
    cases Bean.eq_of_instanceOf hb
    rw [Stateful.bind_of_ok (Stateful.ofExcept_ok b b)]
    cases w with
    | value cell t name =>
      simp only
      cases assigned t name v <;> rfl
    | content cell t =>
      simp only
      cases assignedOpt t v <;> rfl

/-- The writers of a declared bean change it in place. -/
theorem BeanDeclaration.schemaWith_writesInPlace (d : ResolvedDeclaration) (home : String)
    (defaults : List (Option Value)) : (d.schemaWith home defaults).WritesInPlace := by
  constructor
  case field =>
    intro f hf w hw
    obtain ⟨o, _, rfl⟩ := List.mem_map.mp hf
    obtain ⟨m, _, rfl⟩ := Option.map_eq_some_iff.mp hw
    exact m.writer_inPlace _
  case method =>
    intro m hm w hw
    obtain ⟨o, _, rfl⟩ := List.mem_map.mp hm
    cases o with
    | getter name returns read derived => cases hw
    | setter name param write =>
      cases hw
      exact write.writer_inPlace _
  case inherited => exact fun a ha => nomatch ha
  case generated =>
    intro g hg w hw
    obtain ⟨o, _, rfl⟩ := List.mem_map.mp hg
    obtain ⟨m, _, rfl⟩ := Option.map_eq_some_iff.mp hw
    exact m.writer_inPlace _

theorem WriteRule.writer_inPlace (type : BeanType) (rule : WriteRule) :
    (rule.writer type).InPlace := by
  intro v b
  unfold writer
  cases rule with
  | refuse e => rfl
  | cell index isOpen store =>
    simp only
    rw [Stateful.bind_of_ok (Stateful.getThe_apply b)]
    cases hb : b.opened type isOpen with
    | error e => rw [Stateful.bind_of_error (Stateful.ofExcept_error e b)]
    | ok c =>
      cases Bean.eq_of_opened hb
      rw [Stateful.bind_of_ok (Stateful.ofExcept_ok b b)]
      rcases store.store (b.cell? index) v with ⟨held, _ | _⟩ <;> rfl

/-! ### Setting properties one after the other -/

/-- Sets those of some properties of a bean for which there is a value, or null, one after the other, up
to the first one that fails. -/
def Bean.setEach (b : Bean) (value? : Property → Option (Option Value)) :
    List Property → Except BeanError Bean
  | [] => .ok b
  | p :: rest =>
    match value? p with
    | none => b.setEach value? rest
    | some v =>
      match p.set v b with
      | (.ok (), written) => written.setEach value? rest
      | (.error e, _) => .error e

namespace Bean

variable {b : Bean} {value? : Property → Option (Option Value)} {p : Property} {l : List Property}

theorem setEach_of_none (h : value? p = none) : b.setEach value? (p :: l) = b.setEach value? l := by
  rw [setEach, h]

theorem setEach_of_ok {v : Option Value} {written : Bean} (h : value? p = some v)
    (hset : p.set v b = (.ok (), written)) :
    b.setEach value? (p :: l) = written.setEach value? l := by
  rw [setEach, h]
  simp only [hset]

theorem setEach_of_error {v : Option Value} {e : BeanError} {left : Bean} (h : value? p = some v)
    (hset : p.set v b = (.error e, left)) : b.setEach value? (p :: l) = .error e := by
  rw [setEach, h]
  simp only [hset]

theorem setEach_eq_error {e : BeanError} : b.setEach value? l = .error e ↔
    ∃ before p after v written, l = before ++ p :: after ∧ b.setEach value? before = .ok written ∧
      value? p = some v ∧ (p.set v written).1 = .error e := by
  constructor
  · intro h
    induction l generalizing b with
    | nil => cases h
    | cons q l ih =>
      cases hq : value? q with
      | none =>
        rw [setEach_of_none hq] at h
        obtain ⟨before, p, after, v, written, rfl, hbefore, hv, hset⟩ := ih h
        exact ⟨q :: before, p, after, v, written, rfl, (setEach_of_none hq).trans hbefore, hv, hset⟩
      | some v =>
        rcases hset : q.set v b with ⟨_ | _, b'⟩
        · rw [setEach_of_error hq hset] at h
          cases h
          exact ⟨[], q, l, v, b, rfl, rfl, hq, congrArg Prod.fst hset⟩
        · rw [setEach_of_ok hq hset] at h
          obtain ⟨before, p, after, v', written, rfl, hbefore, hv, hfails⟩ := ih h
          exact ⟨q :: before, p, after, v', written, rfl, (setEach_of_ok hq hset).trans hbefore, hv,
            hfails⟩
  · rintro ⟨before, p, after, v, written, rfl, hbefore, hv, hfails⟩
    induction before generalizing b with
    | nil =>
      cases hbefore
      exact setEach_of_error hv (Prod.ext hfails rfl)
    | cons q before ih =>
      rw [List.cons_append]
      cases hq : value? q with
      | none =>
        rw [setEach_of_none hq] at hbefore ⊢
        exact ih hbefore
      | some w =>
        rcases hset : q.set w b with ⟨_ | _, b'⟩
        · rw [setEach_of_error hq hset] at hbefore
          cases hbefore
        · rw [setEach_of_ok hq hset] at hbefore ⊢
          exact ih hbefore

end Bean

namespace Builder

variable {b : Builder} {p : Property} {l : List Property}

/-! ### Writing what a builder holds -/

theorem writeAll_cons (b : Builder) (p : Property) (l : List Property) :
    b.writeAll (p :: l) = (match p.slot?.bind (b.slots[·]?) with
      | some ⟨v, true⟩ => (p.accessor.write v).adapt (.initializationFailed b.descriptor.type)
      | _ => pure ()) >>= fun _ => b.writeAll l := rfl

theorem writeAll_of_isSet {new written : Bean} {slot : Nat} {v : Option Value}
    (hslot : p.slot? = some slot) (hset : b.slots[slot]? = some ⟨v, true⟩)
    (hwrite : p.accessor.write v new = (.ok (), written)) :
    b.writeAll (p :: l) new = b.writeAll l written := by
  have hstep : ((p.accessor.write v).adapt (.initializationFailed b.descriptor.type) :
      BeanM BeanError Unit) new = (.ok (), written) := by
    rw [Stateful.adapt_apply, hwrite]
    rfl
  rw [writeAll_cons, hslot, Option.bind_some, hset]
  exact Stateful.bind_of_ok hstep

theorem writeAll_of_error {new left : Bean} {slot : Nat} {v : Option Value} {e : BeanError}
    (hslot : p.slot? = some slot) (hset : b.slots[slot]? = some ⟨v, true⟩)
    (hwrite : p.accessor.write v new = (.error e, left)) :
    b.writeAll (p :: l) new = (.error (.initializationFailed b.descriptor.type e), left) := by
  have hstep : ((p.accessor.write v).adapt (.initializationFailed b.descriptor.type) :
      BeanM BeanError Unit) new = (.error (.initializationFailed b.descriptor.type e), left) := by
    rw [Stateful.adapt_apply, hwrite]
    rfl
  rw [writeAll_cons, hslot, Option.bind_some, hset]
  exact Stateful.bind_of_error hstep

theorem writeAll_of_not_isSet {new : Bean}
    (h : ∀ v, p.slot?.bind (b.slots[·]?) ≠ some ⟨v, true⟩) :
    b.writeAll (p :: l) new = b.writeAll l new := by
  rw [writeAll_cons]
  split
  · rename_i v hset
    exact absurd hset (h v)
  · exact Stateful.bind_of_ok (Stateful.pure_apply () new)

theorem writeAll_of_slotless (h : ∀ p ∈ l, p.slot? = none) (new : Bean) :
    b.writeAll l new = (.ok (), new) := by
  induction l with
  | nil => rfl
  | cons p l ih =>
    obtain ⟨hp, hl⟩ := List.forall_mem_cons.mp h
    have hnone (v : Option Value) : p.slot?.bind (b.slots[·]?) ≠ some ⟨v, true⟩ := by
      rw [hp]
      nofun
    rw [writeAll_of_not_isSet hnone]
    exact ih hl

/-- The builder writes to the property what setting it to the value comes to, or nothing if there is no
value for it. -/
inductive Writes (b : Builder) (value? : Property → Option (Option Value)) (p : Property) : Prop where
  | value {v w : Option Value} {slot : Nat} (given : value? p = some v)
    (accepted : p.accept? v = .ok w) (slot_eq : p.slot? = some slot)
    (held : b.slots[slot]? = some ⟨w, true⟩) (style : p.style = .readWrite)
  | nothing (missing : value? p = none) (unset : ∀ v, p.slot?.bind (b.slots[·]?) ≠ some ⟨v, true⟩)

theorem writeAll_eq_setEach {value? : Property → Option (Option Value)} {type : BeanType} {new : Bean}
    (hl : ∀ p ∈ l, b.Writes value? p ∧ p.declaringType = type ∧ p.accessor.InPlace)
    (hnew : new.type = type) :
    (∃ built, b.writeAll l new = (.ok (), built) ∧ new.setEach value? l = .ok built) ∨
    ∃ cause left, b.writeAll l new = (.error (.initializationFailed b.descriptor.type cause), left) ∧
      new.setEach value? l = .error cause := by
  induction l generalizing new with
  | nil => exact .inl ⟨new, rfl, rfl⟩
  | cons p l ih =>
    obtain ⟨⟨hwrites, hdeclaring, hplace⟩, hl⟩ := List.forall_mem_cons.mp hl
    cases hwrites with
    | nothing hmissing hunset =>
      rw [writeAll_of_not_isSet hunset, Bean.setEach_of_none hmissing]
      exact ih hl hnew
    | @value v w slot hgiven haccept hslot hheld hstyle =>
      have hset : p.set v new = p.accessor.write w new := by
        rw [Property.set_eq hstyle (hnew.trans hdeclaring.symm), haccept]
      have htype := hplace w new
      rcases hwrite : p.accessor.write w new with ⟨e | _, written⟩
      · exact .inr ⟨e, written, writeAll_of_error hslot hheld hwrite,
          Bean.setEach_of_error hgiven (hset.trans hwrite)⟩
      · rw [writeAll_of_isSet hslot hheld hwrite, Bean.setEach_of_ok hgiven (hset.trans hwrite)]
        rw [hwrite] at htype
        exact ih hl (htype.trans hnew)

/-! ### Building -/

variable {s : Schema} {kind : AccessorKind} {d : Descriptor}

theorem isSet_builder (d : Descriptor) {i : Nat} {slot : BuilderSlot}
    (h : d.builder.slots[i]? = some slot) : slot.isSet = false := by
  have hmem := List.mem_of_getElem? h
  unfold Descriptor.builder at hmem
  simp only at hmem
  split at hmem
  · rw [List.eq_of_mem_replicate hmem]
  · obtain ⟨v, _, rfl⟩ := List.mem_map.mp hmem
    rfl

/-- After a run, the builder writes to each property that was assigned to what was stored for it last. It
may have been accepted for any value. -/
theorem writes_run (h : (Descriptor.ofSchema s kind).result = .ok d) (hs : s.isMutable = true)
    (converter : ConverterChoice) (calls : List Call) (hp : p ∈ d.properties)
    {value : Assignment → Option Value}
    (hvalue : ∀ a, p.accept? a.offered = .ok a.stored → p.accept? (value a) = .ok a.stored) :
    ({ d with converter }.builder.run calls).2.Writes
      (fun p => ({ d with converter }.builder.lastAssignment? p.name calls).map value) p := by
  have hlaid := laid_builder h converter
  have hwell := Descriptor.ofSchema_wellFormed h
  cases hlast : { d with converter }.builder.lastAssignment? p.name calls with
  | some a =>
    obtain ⟨q, slot, hbuildable, haccept⟩ := exists_of_lastAssignment? hlaid hlast
    obtain ⟨hfind, hslot, _⟩ := buildable_eq_ok.mp hbuildable
    obtain ⟨hq, hname⟩ := (Descriptor.find?_eq_some_iff hlaid.distinct).mp hfind
    cases eq_of_distinct hwell.distinct hq hp hname
    have hposition := (hlaid.slot p hp slot hslot).1
    have hown := hwell.slot slot p hposition
    rw [hslot] at hown
    refine .value (congrArg (Option.map value) hlast) (hvalue a haccept) hslot ?_ ?_
    · rw [getElem?_run hlaid hp hslot, hlast]
      rfl
    · split at hown
      · rename_i hlt
        exact (hwell.readWrite slot p hposition).mpr ⟨hs, hlt⟩
      · cases hown
  | none =>
    refine .nothing (congrArg (Option.map value) hlast) fun v hset => ?_
    obtain ⟨slot, hslot, hheld⟩ := Option.bind_eq_some_iff.mp hset
    rw [getElem?_run hlaid hp hslot, hlast] at hheld
    cases isSet_builder _ hheld

/-- To build a bean is to set the properties of a new one. -/
structure BuildsByWriting (b : Builder) (new : Bean) (value? : Property → Option (Option Value)) :
    Prop where
  build : b.build.result = (new.setEach value? b.descriptor.properties).mapError
    (.initializationFailed b.descriptor.type)
  /-- The error is that of the first property that fails. -/
  fails : ∀ e, b.build.result = .error e ↔ ∃ before p after v written cause,
    b.descriptor.properties = before ++ p :: after ∧ new.setEach value? before = .ok written ∧
      value? p = some v ∧ (p.set v written).1 = .error cause ∧
      e = .initializationFailed b.descriptor.type cause

theorem buildsByWriting {b : Builder} {new : Bean} {value? : Property → Option (Option Value)}
    (hmutable : b.descriptor.isMutable = true) (hnew : b.construct [] = .ok new)
    (hproperties : ∀ p ∈ b.descriptor.properties,
      b.Writes value? p ∧ p.declaringType = new.type ∧ p.accessor.InPlace) :
    b.BuildsByWriting new value? := by
  have hbuild : b.build.result = (new.setEach value? b.descriptor.properties).mapError
      (.initializationFailed b.descriptor.type) := by
    change b.bean = _
    rw [bean, if_pos hmutable, hnew]
    rcases writeAll_eq_setEach hproperties rfl with ⟨built, hwrite, hset⟩ | ⟨cause, left, hwrite, hset⟩
    · simp only [hwrite, hset]
      rfl
    · simp only [hwrite, hset]
      rfl
  refine ⟨hbuild, fun e => ?_⟩
  rw [hbuild]
  constructor
  · intro h
    cases hset : new.setEach value? b.descriptor.properties with
    | ok built =>
      rw [hset] at h
      cases h
    | error cause =>
      rw [hset] at h
      cases h
      obtain ⟨before, p, after, v, written, hfirst⟩ := Bean.setEach_eq_error.mp hset
      exact ⟨before, p, after, v, written, cause, hfirst.1, hfirst.2.1, hfirst.2.2.1, hfirst.2.2.2, rfl⟩
  · rintro ⟨before, p, after, v, written, cause, hsplit, hbefore, hv, hfails, rfl⟩
    rw [Bean.setEach_eq_error.mpr ⟨before, p, after, v, written, hsplit, hbefore, hv, hfails⟩]
    rfl

/-- Whatever is called on a builder of a mutable bean, with whichever converter, and for the values that
were offered as for those that were stored. -/
theorem run_buildsByWriting (h : (Descriptor.ofSchema s kind).result = .ok d)
    (hs : s.isMutable = true) (hplace : s.WritesInPlace) {c : Constructor}
    (hc : s.constructors.find? (·.arity == 0) = some c) {new : Bean}
    (hnew : c.invoke ⟨s.type.path, []⟩ = .ok new) (htype : new.type = s.type)
    (converter : ConverterChoice) (calls : List Call) :
    (({ d with converter }.builder.run calls).2.BuildsByWriting new fun p =>
        ({ d with converter }.builder.lastAssignment? p.name calls).map Assignment.offered) ∧
      ({ d with converter }.builder.run calls).2.BuildsByWriting new fun p =>
        ({ d with converter }.builder.lastAssignment? p.name calls).map Assignment.stored := by
  obtain ⟨_, hsearch, hschema, _⟩ := Descriptor.ofSchema_eq_ok h
  have hconstructor : d.constructor = c := by
    rw [Schema.searchConstructor, hs, if_pos rfl, Schema.emptyConstructor, hc] at hsearch
    cases hsearch
    rfl
  have hbuilds {value : Assignment → Option Value} (hvalue : ∀ p : Property, ∀ a : Assignment,
      p.accept? a.offered = .ok a.stored → p.accept? (value a) = .ok a.stored) :
      ({ d with converter }.builder.run calls).2.BuildsByWriting new fun p =>
        ({ d with converter }.builder.lastAssignment? p.name calls).map value := by
    apply buildsByWriting
    · rw [descriptor_run]
      exact (congrArg Schema.isMutable hschema).trans hs
    · unfold construct
      rw [descriptor_run]
      change (d.constructor.invoke ⟨d.schema.type.path, []⟩).mapError _ = _
      rw [hconstructor, hschema, hnew]
      rfl
    · intro p hp
      rw [descriptor_run] at hp
      obtain ⟨hdeclaring, haccessor⟩ := hplace.property h hp
      exact ⟨writes_run h hs converter calls hp (hvalue p), hdeclaring.trans htype.symm, haccessor⟩
  constructor
  · exact hbuilds fun _ _ haccept => haccept
  · exact hbuilds fun p _ haccept => Property.accept?_of_admits (Property.admits_of_accept? haccept)

end Builder

namespace Schema

/-- The setter of the level takes an option, and the seal refuses to be written. -/
def thermostat : Schema :=
  let type : BeanType := ⟨"plant", "Thermostat", .row⟩
  { type
    isMutable := true
    fields := [
      { name := "label", type := .string, style := some .field
        reader := some (ReadRule.reader type (.cell 0 false))
        writer := some (WriteRule.writer type (.cell 0 false (.nullable .string))) },
      { name := "level", type := .int .i32, style := some .accessor },
      { name := "seal", type := .bool, style := some .optional
        reader := some (ReadRule.reader type .null)
        writer := some (WriteRule.writer type (.refuse (.other "sealed"))) }]
    methods := [
      { name := "get_level", body := .getter (.int .i32) (ReadRule.reader type (.cell 1 false)) },
      { name := "set_level"
        body := .setter (.option (.int .i32)) (WriteRule.writer type (.cell 1 false .any)) }]
    constructors := [
      { params := [.string], invoke := BuildRule.invoke (.refuse (.other "unused")) },
      { params := [], invoke := BuildRule.invoke (.row type [] [none, none]) }] }

theorem thermostat_writesInPlace : thermostat.WritesInPlace := by
  constructor
  case field =>
    intro f hf w hw
    simp only [thermostat, List.mem_cons, List.not_mem_nil, or_false] at hf
    rcases hf with rfl | rfl | rfl <;> cases hw <;> exact WriteRule.writer_inPlace _ _
  case method =>
    intro m hm w hw
    simp only [thermostat, List.mem_cons, List.not_mem_nil, or_false] at hm
    rcases hm with rfl | rfl <;> cases hw
    exact WriteRule.writer_inPlace _ _
  case inherited => exact fun a ha => nomatch ha
  case generated => exact fun g hg => nomatch hg

/-- A level is wrapped for its setter. The label is written before the seal refuses, though it was set
later. -/
theorem thermostat_buildsByWriting :
    ∃ d, (Descriptor.ofSchema thermostat .reflective).result = .ok d ∧
      (d.builder.run [.set "level" (some (.ofInt .i32 20)), .setText "level" "21"]).2.build.result =
        .ok ⟨thermostat.type, [none, some (.option (.int .i32) (some (.ofInt .i32 21)))]⟩ ∧
      (d.builder.run [.set "seal" (some (.ofBool true)), .set "label" (some (.ofString "hall")),
          .set "level" none]).2.build.result =
        .error (.initializationFailed thermostat.type (.invocationFailed "seal" (.other "sealed"))) := by
  refine ⟨_, rfl, ?_, ?_⟩
  · exact (@Builder.run_buildsByWriting thermostat .reflective _ rfl rfl thermostat_writesInPlace
      _ rfl _ rfl rfl .shared _).1.build
  · exact (@Builder.run_buildsByWriting thermostat .reflective _ rfl rfl thermostat_writesInPlace
      _ rfl _ rfl rfl .shared _).2.build

end Schema

end Beans
