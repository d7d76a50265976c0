import Beans.Proofs.Acceptance
import Beans.Proofs.Assembly
import Beans.Proofs.DeclaredDescriptor
/-!
# Builders of declared beans

A builder of a declared bean that is not mutable has one slot for each property, in which it holds null
or a value of the declared type. To build the bean is to assemble what the slots hold.
-/

set_option autoImplicit false

namespace Beans

variable {d : ResolvedDeclaration} {home : String} {defaults : List (Option Value)}
  {kind : AccessorKind} {D : Descriptor} {own derived : List Property}
  {q : DeclaredProperty Ty Value} {v : Option Value}

namespace Descriptor.Declared

theorem type (h : D.Declared d home defaults own derived) : D.type = d.beanType home := by
  rw [Descriptor.type, h.schema]
  rfl

theorem isMutable (h : D.Declared d home defaults own derived) : D.isMutable = d.isMutable := by
  rw [Descriptor.isMutable, h.schema]
  rfl

theorem slotTypes (h : D.Declared d home defaults own derived) :
    Schema.slotTypes D.properties = d.properties.map (·.type) := by
  rw [h.properties]
  exact BeanDeclaration.slotTypes_of_declares h.own h.derived

theorem constructor_eq (h : D.Declared d home defaults own derived) (himmutable : d.isMutable = false) :
    D.constructor.params = d.properties.map (·.type) ∧
      ∀ a, D.constructor.invoke a = (OutlineConstructor.fill ⟨d.beanType home, defaults⟩
        (OutlineConstructor.usesFrom 0 d.properties) a).1 := by
  rw [h.constructor, BeanDeclaration.outlineConstructor, himmutable, if_neg Bool.false_ne_true]
  exact ⟨rfl, fun _ => rfl⟩

/-- What has a slot is the property of the field at this position. -/
theorem exists_of_slot (h : D.Declared d home defaults own derived) {p : Property} {slot : Nat}
    (hp : p ∈ D.properties) (hslot : p.slot? = some slot) :
    ∃ q, d.properties[slot]? = some q ∧ p.Declares q d.isMutable (d.beanType home) slot := by
  rw [h.properties] at hp
  rcases List.mem_append.mp hp with hown | hderived
  · obtain ⟨i, hi⟩ := List.mem_iff_getElem?.mp hown
    obtain ⟨⟨q, position⟩, hx, hdeclares⟩ := exists_getElem?_left h.own hi
    cases hdeclares.slot.symm.trans hslot
    exact ⟨q, List.mk_mem_zipIdx_iff_getElem?.mp (List.mem_of_getElem? hx), hdeclares⟩
  · rw [(h.derived p hderived).1] at hslot
    cases hslot

end Descriptor.Declared

namespace Builder

variable {b : Builder} {i : Nat}

/-- What holds of a builder of a declared bean that is not mutable. -/
structure Collects (b : Builder) (d : ResolvedDeclaration) (home : String)
    (defaults : List (Option Value)) : Prop where
  descriptor : ∃ own derived, b.descriptor.Declared d home defaults own derived
  immutable : d.isMutable = false
  slotted : b.descriptor.Slotted (d.properties.map (·.type))
  holds : b.Holds (d.properties.map (·.type))

def given (b : Builder) (d : ResolvedDeclaration) : Given :=
  d.properties.zip (b.slots.map (·.value))

def assembled (b : Builder) (d : ResolvedDeclaration) (home : String)
    (defaults : List (Option Value)) : Bean :=
  Bean.holding ⟨d.beanType home, defaults⟩ (b.given d)

theorem type_assembled (b : Builder) (d : ResolvedDeclaration) (home : String)
    (defaults : List (Option Value)) : (b.assembled d home defaults).type = d.beanType home :=
  Bean.type_holding _ _

theorem map_wrapped_zip {types : List Ty} {slots : List BuilderSlot}
    (h : List.Forall₂ (fun t slot => t.Admits slot.value) types slots) :
    (slots.zip types).map wrapped = slots.map (·.value) := by
  induction h with
  | nil => rfl
  | @cons t slot types slots hslot _ ih =>
    have hsame : wrapped (slot, t) = slot.value := by
      unfold wrapped
      cases hv : slot.value with
      | none => rfl
      | some v => exact congrArg some (Value.wrapInto_self (hslot v hv))
    rw [List.zip_cons_cons, List.map_cons, List.map_cons, hsame, ih]

namespace Collects

theorem length_slots (h : b.Collects d home defaults) : b.slots.length = d.properties.length := by
  rw [← h.holds.length_eq, List.length_map]

theorem getElem?_given : (b.given d)[i]? = some (q, v) ↔
    d.properties[i]? = some q ∧ b.slots[i]?.map (·.value) = some v := by
  rw [given, List.getElem?_zip_eq_some, List.getElem?_map]

theorem get_eq (h : b.Collects d home defaults) (hq : d.properties[i]? = some q) :
    ∃ slot, b.slots[i]? = some slot ∧ q.type.Admits slot.value ∧ b.get q.name = .ok slot.value := by
  obtain ⟨own, derived, hD⟩ := h.descriptor
  obtain ⟨p, hp, hdeclares⟩ := hD.own_at hq
  have hfind : b.descriptor.find? q.name = some p :=
    hdeclares.name ▸ hD.find?_own (List.mem_of_getElem? hp)
  have htype : (d.properties.map (·.type))[i]? = some q.type := by
    rw [List.getElem?_map, hq]
    rfl
  obtain ⟨slot, hslot, hadmits⟩ := exists_getElem?_left h.holds.flip htype
  refine ⟨slot, hslot, hadmits, ?_⟩
  rw [Builder.get, buildable_eq_ok.mpr ⟨hfind, hdeclares.slot, hdeclares.isBuildable⟩]
  change Except.ok (b.slots[i]?.bind (·.value)) = _
  rw [hslot]
  rfl

theorem getElem?_given_iff (h : b.Collects d home defaults) :
    (b.given d)[i]? = some (q, v) ↔ d.properties[i]? = some q ∧ b.get q.name = .ok v := by
  rw [getElem?_given]
  refine and_congr_right fun hq => ?_
  obtain ⟨slot, hslot, _, hget⟩ := h.get_eq hq
  rw [hslot, hget, Option.map_some, Option.some.injEq, Except.ok.injEq]

theorem mem_given_iff (h : b.Collects d home defaults) :
    (q, v) ∈ b.given d ↔ q ∈ d.properties ∧ b.get q.name = .ok v := by
  simp only [List.mem_iff_getElem?, h.getElem?_given_iff, exists_and_right]

theorem admits_of_mem (h : b.Collects d home defaults) (hx : (q, v) ∈ b.given d) :
    q.type.Admits v := by
  obtain ⟨hmem, hget⟩ := h.mem_given_iff.mp hx
  obtain ⟨i, hi⟩ := List.mem_iff_getElem?.mp hmem
  obtain ⟨slot, _, hadmits, hslot⟩ := h.get_eq hi
  rw [hslot] at hget
  cases hget
  exact hadmits

theorem map_fst_given (h : b.Collects d home defaults) : (b.given d).map Prod.fst = d.properties :=
  List.map_fst_zip (Nat.le_of_eq (by rw [List.length_map, h.length_slots]))

theorem map_snd_given (h : b.Collects d home defaults) :
    (b.given d).map Prod.snd = b.slots.map (·.value) :=
  List.map_snd_zip (Nat.le_of_eq (by rw [List.length_map, h.length_slots]))

theorem arguments_eq (h : b.Collects d home defaults) :
    b.arguments = .ok ((b.given d).map Prod.snd) := by
  obtain ⟨own, derived, hD⟩ := h.descriptor
  rw [Builder.arguments_eq h.slotted h.holds, (hD.constructor_eq h.immutable).1,
    map_wrapped_zip h.holds, h.map_snd_given]

/-- To build the bean is to assemble what the builder holds. -/
theorem build_eq (h : b.Collects d home defaults) :
    b.build.result = (OutlineConstructor.fill ⟨d.beanType home, defaults⟩
      (OutlineConstructor.usesFrom 0 ((b.given d).map Prod.fst))
      ⟨(d.beanType home).path, (b.given d).map Prod.snd⟩).1.mapError
        (.constructionFailed (d.beanType home)) := by
  obtain ⟨own, derived, hD⟩ := h.descriptor
  change b.bean = _
  rw [Builder.bean, hD.isMutable, h.immutable, if_neg Bool.false_ne_true, h.arguments_eq]
  change b.construct _ = _
  rw [Builder.construct, (hD.constructor_eq h.immutable).2, hD.type, h.map_fst_given]

theorem build_of_allows (h : b.Collects d home defaults) (hallows : ∀ x ∈ b.given d, x.1.Allows x.2) :
    b.build.result = .ok (b.assembled d home defaults) := by
  rw [h.build_eq, OutlineConstructor.fill_of_allows List.drop_zero (fun _ => h.admits_of_mem) hallows]
  rfl

theorem cell?_assembled (h : b.Collects d home defaults) (hx : (q, v) ∈ b.given d) :
    (b.assembled d home defaults).cell? q.cell = q.stored v :=
  Bean.cell?_holding h.map_fst_given hx

theorem cell?_assembled_of_other (h : b.Collects d home defaults)
    {x : Nat × DeclaredField Ty Value} (hx : x ∈ d.others) :
    (b.assembled d home defaults).cell? x.1 = (⟨d.beanType home, defaults⟩ : Bean).cell? x.1 :=
  Bean.cell?_holding_of_other h.map_fst_given hx

/-- The first property that does not allow what is held for it is reported. -/
theorem build_of_offence (h : b.Collects d home defaults) (hi : (b.given d)[i]? = some (q, v))
    (hbefore : ∀ j x, j < i → (b.given d)[j]? = some x → x.1.Allows x.2) (hv : ¬ q.Allows v) :
    b.build.result = .error (.constructionFailed (d.beanType home)
      (q.offence (d.beanType home).path i v)) := by
  rw [h.build_eq, OutlineConstructor.fill_of_offence List.drop_zero (fun _ => h.admits_of_mem) hi
    hbefore hv, Nat.zero_add]
  rfl

theorem exists_of_set (h : b.Collects d home defaults) {name : String} {b' : Builder}
    (hset : b.set name v = .ok b') :
    ∃ i q w, d.properties[i]? = some q ∧ q.name = name ∧
      b' = { b with slots := b.slots.set i { value := w, isSet := true } } := by
  obtain ⟨own, derived, hD⟩ := h.descriptor
  obtain ⟨p, slot, w, hbuildable, _, rfl⟩ := set_eq_ok.mp hset
  obtain ⟨hfind, hslot, _⟩ := buildable_eq_ok.mp hbuildable
  obtain ⟨hp, hname⟩ := (Descriptor.find?_eq_some_iff hD.distinct).mp hfind
  obtain ⟨q, hq, hdeclares⟩ := hD.exists_of_slot hp hslot
  exact ⟨slot, q, w, hq, hdeclares.name.symm.trans hname, rfl⟩

theorem set (h : b.Collects d home defaults) {name : String} {b' : Builder}
    (hset : b.set name v = .ok b') : b'.Collects d home defaults := by
  have hdescriptor := descriptor_of_set hset
  refine ⟨?_, h.immutable, ?_, holds_set h.slotted h.holds hset⟩
  · rw [hdescriptor]
    exact h.descriptor
  · rw [hdescriptor]
    exact h.slotted

theorem get_of_set (h : b.Collects d home defaults) {name : String} {b' : Builder}
    (hset : b.set name v = .ok b') (hq : q ∈ d.properties) (hne : q.name ≠ name) :
    b'.get q.name = b.get q.name := by
  obtain ⟨i, hi⟩ := List.mem_iff_getElem?.mp hq
  obtain ⟨slot, hslot, _, hget⟩ := h.get_eq hi
  obtain ⟨slot', hslot', _, hget'⟩ := (h.set hset).get_eq hi
  obtain ⟨j, q', w, hj, hname, rfl⟩ := h.exists_of_set hset
  have hother : j ≠ i := by
    rintro rfl
    cases hi.symm.trans hj
    exact hne hname
  have hsame : b.slots[i]? = some slot' := by
    rw [← List.getElem?_set_ne hother]
    exact hslot'
  cases hslot.symm.trans hsame
  rw [hget, hget']

end Collects

/-! ### Runs -/

theorem collects_builder (himmutable : d.isMutable = false)
    (h : (Descriptor.ofSchema (d.schemaWith home defaults) kind).result = .ok D)
    (converter : ConverterChoice) : { D with converter }.builder.Collects d home defaults := by
  obtain ⟨own, derived, hD⟩ := Descriptor.exists_declared h
  have hslotted := Descriptor.slotted_slotTypes himmutable h
  have hholds := holds_builder himmutable h
  rw [hD.slotTypes] at hslotted hholds
  exact ⟨⟨own, derived, hD.withConverter converter⟩, himmutable,
    ⟨hslotted.slot, hslotted.property, hslotted.params⟩, hholds⟩

/-- Whatever is called on a builder of a declared bean, with whichever converter. -/
theorem collects_run (himmutable : d.isMutable = false)
    (h : (Descriptor.ofSchema (d.schemaWith home defaults) kind).result = .ok D)
    (converter : ConverterChoice) (calls : List Call) :
    ({ D with converter }.builder.run calls).2.Collects d home defaults :=
  run_preserves (P := fun b => b.Collects d home defaults) (fun _ _ _ _ hb hset => hb.set hset)
    (collects_builder himmutable h converter) calls

end Builder

end Beans
