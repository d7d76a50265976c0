import Beans.Proofs.Descriptor
import Beans.Proofs.Run
/-!
# Descriptors that cannot be told apart

Two descriptors whose accessors agree are the same to everyone who uses them: properties are read and
written alike, with the same errors, and builders answer alike and build the same beans. So a schema has
indistinguishable descriptors, or none for the same reason, whether its members are looked up at each
call or once.
-/

set_option autoImplicit false

namespace Beans

/-- Nothing that a property says or does tells the two apart. -/
structure Property.Indistinguishable (p q : Property) : Prop where
  /-- All but the accessor is the same. -/
  described : q = { p with accessor := q.accessor }
  isWritable : p.isWritable = q.isWritable
  get : ∀ b, p.get b = q.get b
  /-- The result or error, and the bean afterwards. -/
  set : ∀ v b, p.set v b = q.set v b

/-- Nothing that a descriptor or one of its builders says or does tells the two apart. -/
structure Descriptor.Indistinguishable (d e : Descriptor) : Prop where
  properties : List.Forall₂ Property.Indistinguishable d.properties e.properties
  property : ∀ name, SameOutcome Property.Indistinguishable (d.property name) (e.property name)
  readAll : ∀ b, d.readAll b = e.readAll b
  answers : ∀ (converter : ConverterChoice) (calls : List Builder.Call),
    ({ d with converter }.builder.run calls).1 = ({ e with converter }.builder.run calls).1
  build : ∀ (converter : ConverterChoice) (calls : List Builder.Call),
    ({ d with converter }.builder.run calls).2.build =
      ({ e with converter }.builder.run calls).2.build

namespace Property

variable {p q : Property}

theorem AlikeBy.indistinguishable (h : p.AlikeBy Accessor.Agrees q) : p.Indistinguishable q := by
  obtain ⟨a, rfl, ha⟩ := h
  refine ⟨rfl, ?_, ?_, ?_⟩
  · simp only [isWritable, ha.isWritable]
  · intro b
    simp only [Property.get, ha.read]
    rfl
  · intro v b
    simp only [Property.set, ha.write]
    rfl

variable {ps qs : List Property}

theorem find?_alike (h : List.Forall₂ (AlikeBy Accessor.Agrees) ps qs) (name : String) :
    (ps.find? (·.name == name) = none ∧ qs.find? (·.name == name) = none) ∨
      ∃ p q, ps.find? (·.name == name) = some p ∧ qs.find? (·.name == name) = some q ∧
        p.AlikeBy Accessor.Agrees q := by
  induction h with
  | nil => exact Or.inl ⟨rfl, rfl⟩
  | cons hpq _ ih =>
    obtain ⟨a, rfl, ha⟩ := hpq
    simp only [List.find?_cons]
    split
    · exact Or.inr ⟨_, _, rfl, rfl, a, rfl, ha⟩
    · exact ih

theorem filter_slot_alike (h : List.Forall₂ (AlikeBy Accessor.Agrees) ps qs) :
    List.Forall₂ (AlikeBy Accessor.Agrees) (ps.filter (·.slot?.isSome))
      (qs.filter (·.slot?.isSome)) := by
  refine List.rel_filter ?_ h
  rintro p q ⟨a, rfl, _⟩
  exact Iff.rfl

theorem mapM_get_alike (h : List.Forall₂ (AlikeBy Accessor.Agrees) ps qs) (b : Bean) :
    ps.mapM (fun p => return (p.name, ← p.get b)) =
      qs.mapM (fun q => return (q.name, ← q.get b)) := by
  induction h with
  | nil => rfl
  | cons hpq _ ih =>
    have hget := hpq.indistinguishable.get b
    obtain ⟨a, rfl, _⟩ := hpq
    rw [List.mapM_cons, List.mapM_cons, ih, hget]

end Property

structure Descriptor.Alike (d e : Descriptor) : Prop where
  schema : d.schema = e.schema
  properties : List.Forall₂ (Property.AlikeBy Accessor.Agrees) d.properties e.properties
  constructor : d.constructor = e.constructor
  prototype : d.prototype = e.prototype
  converter : d.converter = e.converter

namespace Descriptor.Alike

variable {d e : Descriptor}

theorem type (h : d.Alike e) : d.type = e.type := congrArg Schema.type h.schema

theorem isMutable (h : d.Alike e) : d.isMutable = e.isMutable :=
  congrArg Schema.isMutable h.schema

end Descriptor.Alike

namespace Builder

structure Alike (b c : Builder) : Prop where
  descriptor : b.descriptor.Alike c.descriptor
  slots : b.slots = c.slots

variable {b c : Builder}

namespace Alike

theorem buildable (h : b.Alike c) (name : String) :
    SameOutcome (fun x y => x.1.AlikeBy Accessor.Agrees y.1 ∧ x.2 = y.2) (b.buildable name)
      (c.buildable name) := by
  simp only [Builder.buildable, Descriptor.find?_eq]
  rcases Property.find?_alike h.descriptor.properties name with
    ⟨hb, hc⟩ | ⟨p, q, hb, hc, a, rfl, ha⟩
  · rw [hb, hc, h.descriptor.type]
    exact .error _
  · rw [hb, hc]
    simp only [Property.isBuildable]
    cases hslot : p.slot? with
    | none => exact .error _
    | some slot =>
      cases decide (p.style ≠ .derived) with
      | false => exact .error _
      | true => exact .ok ⟨⟨a, by rw [← hslot], ha⟩, rfl⟩

theorem set (h : b.Alike c) (name : String) (v : Option Value) :
    SameOutcome Alike (b.set name v) (c.set name v) := by
  refine (h.buildable name).bind ?_
  rintro ⟨p, i⟩ ⟨q, j⟩ ⟨⟨a, rfl, ha⟩, rfl⟩
  refine (SameOutcome.refl (R := Eq) (fun _ => rfl) (p.accept? v)).bind ?_
  rintro w _ rfl
  exact .ok ⟨h.descriptor, by simp only [h.slots]⟩

theorem setText (h : b.Alike c) (name text : String) :
    SameOutcome Alike (b.setText name text) (c.setText name text) := by
  refine (h.buildable name).bind ?_
  rintro ⟨p, i⟩ ⟨q, j⟩ ⟨⟨a, rfl, ha⟩, rfl⟩
  simp only [← h.descriptor.converter]
  split
  · exact h.set name _
  · exact .error _

theorem get (h : b.Alike c) (name : String) : b.get name = c.get name := by
  apply SameOutcome.eq
  refine (h.buildable name).bind ?_
  rintro ⟨p, i⟩ ⟨q, j⟩ ⟨_, rfl⟩
  exact .ok (by simp only [h.slots])

theorem arguments (h : b.Alike c) : b.arguments = c.arguments := by
  simp only [Builder.arguments, h.slots, h.descriptor.type, h.descriptor.constructor]

theorem construct (h : b.Alike c) (arguments : List (Option Value)) :
    b.construct arguments = c.construct arguments := by
  simp only [Builder.construct, h.descriptor.type, h.descriptor.constructor]

theorem writeAll (h : b.Alike c) {ps qs : List Property}
    (hpq : List.Forall₂ (Property.AlikeBy Accessor.Agrees) ps qs) :
    b.writeAll ps = c.writeAll qs := by
  unfold Builder.writeAll
  rw [h.slots, h.descriptor.type]
  simp only [List.forM_eq_forM]
  induction hpq with
  | nil => rfl
  | cons hpq _ ih =>
    obtain ⟨a, rfl, ha⟩ := hpq
    rw [List.forM_cons, List.forM_cons, ih, ha.write]

theorem bean (h : b.Alike c) : b.bean = c.bean := by
  simp only [Builder.bean, h.descriptor.isMutable, h.construct, h.arguments,
    h.writeAll h.descriptor.properties]

theorem build (h : b.Alike c) : b.build = c.build := by
  simp only [Builder.build, h.descriptor.isMutable, h.descriptor.type, h.bean]

end Alike

end Builder

namespace Descriptor

variable {d e : Descriptor}

theorem Alike.builder (h : d.Alike e) : d.builder.Alike e.builder := by
  refine ⟨h, ?_⟩
  have hcount : d.slotCount = e.slotCount := (Property.filter_slot_alike h.properties).length_eq
  simp only [Descriptor.builder, h.isMutable, hcount, h.prototype]

theorem Alike.indistinguishable (h : d.Alike e) : d.Indistinguishable e := by
  have hrun (converter : ConverterChoice) (calls : List Builder.Call) :
      ({ d with converter }.builder.run calls).1 = ({ e with converter }.builder.run calls).1 ∧
        ({ d with converter }.builder.run calls).2.Alike
          ({ e with converter }.builder.run calls).2 := by
    have halike : { d with converter }.Alike { e with converter } :=
      ⟨h.schema, h.properties, h.constructor, h.prototype, rfl⟩
    exact Builder.run_related (fun b c => Builder.Alike.set) (fun b c => Builder.Alike.setText)
      (fun b c => Builder.Alike.get) halike.builder calls
  refine ⟨?_, ?_, Property.mapM_get_alike h.properties, fun converter calls => (hrun converter calls).1,
    fun converter calls => (hrun converter calls).2.build⟩
  · exact h.properties.imp fun p q hpq => hpq.indistinguishable
  · intro name
    simp only [Descriptor.property, Descriptor.find?_eq]
    rcases Property.find?_alike h.properties name with ⟨hd, he⟩ | ⟨p, q, hd, he, hpq⟩
    · rw [hd, he, h.type]
      exact .error _
    · rw [hd, he]
      exact .ok hpq.indistinguishable

theorem ofSchema_sameOutcome {s : Schema} {kind kind' : AccessorKind}
    (h : SameOutcome (Schema.PropertyLayout.AlikeBy Accessor.Agrees) (s.allProperties kind)
      (s.allProperties kind')) :
    SameOutcome Alike (ofSchema s kind).result (ofSchema s kind').result := by
  unfold ofSchema
  generalize s.allProperties kind = x at h
  generalize s.allProperties kind' = y at h
  cases h with
  | error e => exact .error e
  | @ok l l' hl =>
    simp only [hl.slotTypes, hl.nullable]
    cases s.searchConstructor l'.slotTypes with
    | ambiguous => exact .error _
    | missing =>
      cases s.isMutable with
      | false => exact .error _
      | true => exact .error _
    | found c => exact .ok ⟨rfl, hl.properties, rfl, rfl, rfl⟩

/-- Looking members up at each call and looking them up once come to the same, whatever the schema
declares: members that are missing, repeated, shadowed or failing, and any ancestors. -/
theorem reflective_indistinguishable_handle (s : Schema) :
    SameOutcome Indistinguishable (ofSchema s .reflective).result (ofSchema s .handle).result := by
  have halike := ofSchema_sameOutcome (s.allProperties_sameOutcome
    (fun x _ b _ _ _ => Accessor.reflective_sameOutcome_handle s b)
    (fun x _ => Accessor.reflective_sameOutcome_handle s ⟨x.2.1, .getter x.1.name, none⟩))
  exact halike.mono fun d e h => h.indistinguishable

end Descriptor

end Beans
