import Beans.Proofs.BuildRead
import Beans.Proofs.Copy
/-!
# Validity of built beans

The checks of a declaration stand in the constructor that takes the properties. So a declared bean that is
not mutable passes them whenever it is built, whatever was called before. A mutable bean is built by
writing, where nothing is checked: its properties hold what was stored for them last, or else what their
fields hold by default.
-/

set_option autoImplicit false

namespace Beans

namespace DeclaredProperty

variable {q : DeclaredProperty Ty Value} {v : Option Value} {b b' : Bean}

theorem held_congr (h : b.cell? q.cell = b'.cell? q.cell) : q.held b = q.held b' := by
  unfold held
  rw [h]

theorem passes_shown {check : Check} (h : check.Passes v) : check.Passes (q.shown v) := by
  by_cases hwrapped : q.spec.getStyle = .wrapped
  · rw [shown_of_wrapped hwrapped]
    cases check with
    | notNull => exact Option.some_ne_none _
    | notEmpty =>
      obtain ⟨w, rfl, hfull⟩ := h
      refine ⟨_, rfl, fun hempty => ?_⟩
      cases hempty
      rename_i hempty
      exact hfull hempty
  · rw [shown_of_not_wrapped hwrapped]
    exact h

end DeclaredProperty

theorem Property.Declares.of_write {q : DeclaredProperty Ty Value} {slot : Nat} {p : Property}
    {v : Option Value} {b b' : Bean} (h : p.Declares q true b.type slot) (hv : q.type.Admits v)
    (hwrite : p.accessor.write v b = (.ok (), b')) : b' = b.setCell q.cell (q.stored v) := by
  have htakes : q.Takes v := by
    refine ⟨hv, fun hnull hnone => ?_⟩
    rw [hnone, h.write_null hnull] at hwrite
    cases hwrite
  rw [h.write_of_takes htakes] at hwrite
  exact (Prod.mk.inj hwrite).2.symm

namespace Builder

variable {d : ResolvedDeclaration} {home : String} {defaults : List (Option Value)}
  {kind : AccessorKind} {D : Descriptor} {b : Builder} {bean new : Bean}
  {q : DeclaredProperty Ty Value} {p : Property} {ps : List (DeclaredProperty Ty Value)}
  {l derived : List Property} {n : Nat}

/-! ### Beans that are written -/

/-- What is written in place of an old value: what was set at a position, or nothing. -/
def written (b : Builder) (i : Nat) (old : Option Value) : Option Value :=
  match b.slots[i]? with
  | some ⟨v, true⟩ => v
  | _ => old

theorem exists_of_writeAll_cons (h : p.Declares q true new.type n)
    (hadmits : ∀ v, b.slots[n]? = some ⟨v, true⟩ → q.type.Admits v)
    (hwrite : b.writeAll (p :: l) new = (.ok (), bean)) :
    ∃ next, b.writeAll l next = (.ok (), bean) ∧ next.type = new.type ∧
      q.held next = b.written n (q.held new) ∧ ∀ i, i ≠ q.cell → next.cell? i = new.cell? i := by
  by_cases hset : ∃ v, b.slots[n]? = some ⟨v, true⟩
  · obtain ⟨v, hv⟩ := hset
    rcases hstep : p.accessor.write v new with ⟨_ | _, next⟩
    · rw [writeAll_of_error h.slot hv hstep] at hwrite
      cases hwrite
    · rw [writeAll_of_isSet h.slot hv hstep] at hwrite
      cases h.of_write (hadmits v hv) hstep
      refine ⟨_, hwrite, Bean.type_setCell .., ?_, fun i hi => ?_⟩
      · rw [written, hv]
        exact DeclaredProperty.held_eq (by rw [Bean.cell?_setCell, if_pos rfl])
      · rw [Bean.cell?_setCell, if_neg (Ne.symm hi)]
  · have hnone : ∀ v, b.slots[n]? ≠ some ⟨v, true⟩ := fun v hv => hset ⟨v, hv⟩
    have hunset : ∀ v, p.slot?.bind (b.slots[·]?) ≠ some ⟨v, true⟩ := by
      rw [h.slot]
      exact hnone
    rw [writeAll_of_not_isSet hunset] at hwrite
    refine ⟨new, hwrite, rfl, ?_, fun _ _ => rfl⟩
    unfold written
    split
    · rename_i v hv
      exact absurd hv (hnone v)
    · rfl

/-- Writing that succeeds leaves what was set in each property, and does not change the others. -/
theorem held_of_writeAll
    (h : List.Forall₂ (fun x p => Property.Declares x.1 true new.type x.2 p) (ps.zipIdx n) l)
    (hderived : ∀ p ∈ derived, p.slot? = none) (hcells : (ps.map (·.cell)).Nodup)
    (hadmits : ∀ x ∈ ps.zipIdx n, ∀ v, b.slots[x.2]? = some ⟨v, true⟩ → x.1.type.Admits v)
    (hwrite : b.writeAll (l ++ derived) new = (.ok (), bean)) :
    (∀ x ∈ ps.zipIdx n, x.1.held bean = b.written x.2 (x.1.held new)) ∧
      ∀ i, i ∉ ps.map (·.cell) → bean.cell? i = new.cell? i := by
  induction ps generalizing n l new with
  | nil =>
    cases h
    rw [List.nil_append, writeAll_of_slotless hderived new] at hwrite
    cases hwrite
    exact ⟨nofun, fun _ _ => rfl⟩
  | cons q ps ih =>
    obtain ⟨hfresh, hcells⟩ : q.cell ∉ ps.map (·.cell) ∧ (ps.map (·.cell)).Nodup :=
      List.nodup_cons.mp hcells
    obtain ⟨hfirst, hadmits⟩ := List.forall_mem_cons.mp hadmits
    cases h with
    | @cons _ p _ l hp htail =>
      obtain ⟨next, hrest, htype, hheld, hothers⟩ := exists_of_writeAll_cons hp hfirst hwrite
      rw [← htype] at htail
      obtain ⟨hps, hleft⟩ := ih htail hcells hadmits hrest
      constructor
      · rw [List.zipIdx_cons]
        refine List.forall_mem_cons.mpr ⟨?_, fun x hx => ?_⟩
        · rw [DeclaredProperty.held_congr (hleft q.cell hfresh)]
          exact hheld
        · have hcell : x.1.cell ≠ q.cell := by
            intro hsame
            have hmem := List.mem_map_of_mem (f := (·.cell)) (List.fst_mem_of_mem_zipIdx hx)
            exact hfresh (hsame ▸ hmem)
          rw [hps x hx, DeclaredProperty.held_congr (hothers x.1.cell hcell)]
      · intro i hi
        obtain ⟨hne, hi⟩ := not_or.mp (mt List.mem_cons.mpr hi)
        rw [hleft i hi, hothers i hne]

/-! ### Runs -/

/-- What was stored last for the property of a name, or an old value if nothing was. -/
def lastStored (b : Builder) (calls : List Call) (name : String) (old : Option Value) : Option Value :=
  ((b.lastAssignment? name calls).map (·.stored)).getD old

def Fresh (b : Builder) : Prop :=
  ∀ (i : Nat) (slot : BuilderSlot), b.slots[i]? = some slot → slot.isSet = false

section Slots

variable {calls : List Call} {i : Nat} {v : Option Value}

theorem written_run (h : b.Laid) (hfresh : b.Fresh) (hp : p ∈ b.descriptor.properties)
    (hslot : p.slot? = some i) (calls : List Call) (old : Option Value) :
    (b.run calls).2.written i old = b.lastStored calls p.name old := by
  unfold written lastStored
  rw [getElem?_run h hp hslot calls]
  cases b.lastAssignment? p.name calls with
  | some a => rfl
  | none =>
    simp only [Option.map_none, Option.none_or]
    split
    · rename_i v hv
      cases hfresh i _ hv
    · rfl

theorem admits_run (h : b.Laid) (hfresh : b.Fresh) (hp : p ∈ b.descriptor.properties)
    (hslot : p.slot? = some i) (hv : (b.run calls).2.slots[i]? = some ⟨v, true⟩) :
    p.slotType.Admits v := by
  rw [getElem?_run h hp hslot calls] at hv
  cases hlast : b.lastAssignment? p.name calls with
  | some a =>
    rw [hlast] at hv
    cases hv
    obtain ⟨p', slot, hbuildable, haccept⟩ := exists_of_lastAssignment? h hlast
    have hfind : b.descriptor.find? p.name = some p :=
      (Descriptor.find?_eq_some_iff h.distinct).mpr ⟨hp, rfl⟩
    cases hfind.symm.trans (buildable_eq_ok.mp hbuildable).1
    exact Property.admits_of_accept? haccept
  | none =>
    rw [hlast] at hv
    cases hfresh i _ hv

end Slots

variable {own : List Property} {calls : List Call}

theorem writeAll_of_build (hD : b.descriptor.Declared d home defaults own derived)
    (hmutable : d.isMutable = true) (hbuild : b.build.result = .ok bean) :
    b.writeAll (own ++ derived) ⟨d.beanType home, defaults⟩ = (.ok (), bean) := by
  have hconstruct : b.construct [] = .ok ⟨d.beanType home, defaults⟩ := by
    unfold construct
    rw [hD.constructor, BeanDeclaration.outlineConstructor, if_pos hmutable]
    rfl
  change b.bean = .ok bean at hbuild
  rw [Builder.bean, if_pos (hD.isMutable.trans hmutable), hconstruct, hD.properties] at hbuild
  simp only at hbuild
  split at hbuild
  · rename_i built hwrite
    cases hbuild
    exact hwrite
  · cases hbuild

/-- A mutable bean that was built holds what was stored last, or what it holds by default. -/
theorem held_of_build (hD : b.descriptor.Declared d home defaults own derived) (hlaid : b.Laid)
    (hfresh : b.Fresh) (hmutable : d.isMutable = true)
    (hbuild : (b.run calls).2.build.result = .ok bean) (hq : q ∈ d.properties) :
    q.held bean = b.lastStored calls q.name (q.held ⟨d.beanType home, defaults⟩) := by
  have hrun : (b.run calls).2.descriptor.Declared d home defaults own derived := by
    rw [descriptor_run]
    exact hD
  have hproperty {q : DeclaredProperty Ty Value} {i : Nat} (hi : d.properties[i]? = some q) :
      ∃ p ∈ b.descriptor.properties, p.Declares q d.isMutable (d.beanType home) i := by
    obtain ⟨p, hp, hdeclares⟩ := hD.own_at hi
    refine ⟨p, ?_, hdeclares⟩
    rw [hD.properties]
    exact List.mem_append_left derived (List.mem_of_getElem? hp)
  have hadmits : ∀ x ∈ d.properties.zipIdx, ∀ v, (b.run calls).2.slots[x.2]? = some ⟨v, true⟩ →
      x.1.type.Admits v := by
    rintro ⟨q, i⟩ hx v hv
    obtain ⟨p, hp, hdeclares⟩ := hproperty (List.mk_mem_zipIdx_iff_getElem?.mp hx)
    rw [← hdeclares.slotType]
    exact admits_run hlaid hfresh hp hdeclares.slot hv
  have hown := hD.own
  rw [hmutable] at hown
  have hderived : ∀ p ∈ derived, p.slot? = none := fun p hp => (hD.derived p hp).1
  have hwrite := writeAll_of_build hrun hmutable hbuild
  obtain ⟨hheld, -⟩ := held_of_writeAll hown hderived d.nodup_cells hadmits hwrite
  obtain ⟨i, hi⟩ := List.mem_iff_getElem?.mp hq
  obtain ⟨p, hp, hdeclares⟩ := hproperty hi
  rw [hheld (q, i) (List.mk_mem_zipIdx_iff_getElem?.mpr hi), ← hdeclares.name]
  exact written_run hlaid hfresh hp hdeclares.slot calls _

/-! ### Checks -/

theorem Collects.passes_get (h : b.Collects d home defaults) (hbuild : b.build.result = .ok bean)
    (hq : q ∈ d.properties) {check : Check} (hcheck : q.spec.check = some check) {v : Option Value}
    (hv : b.get q.name = .ok v) : check.Passes v := by
  have hallows := h.requires.succeeds.mp ⟨bean, hbuild⟩ q hq v hv
  rw [DeclaredProperty.Allows, hcheck] at hallows
  exact hallows

theorem Collects.valid (h : b.Collects d home defaults) (hbuild : b.build.result = .ok bean) :
    d.Valid bean := by
  intro q hq check hcheck
  obtain ⟨v, hv⟩ := h.requires.held q hq
  have hpasses := h.passes_get hbuild hq hcheck hv
  obtain rfl := h.eq_assembled hbuild
  have hcell := h.cell?_assembled (h.mem_given_iff.mpr ⟨hq, hv⟩)
  rw [DeclaredProperty.held_eq hcell]
  exact hpasses

/-- What the checks of a declaration are worth for a bean that was built after some calls. -/
structure Checked (b : Builder) (calls : List Call) (d : ResolvedDeclaration) (new bean : Bean) :
    Prop where
  valid : d.isMutable = false → d.Valid bean
  shown : d.isMutable = false → ∀ q ∈ d.properties, ∀ check, q.spec.check = some check →
    ∃ p v, b.descriptor.property q.name = .ok p ∧ p.get bean = .ok v ∧ check.Passes v
  held : d.isMutable = true → ∀ q ∈ d.properties,
    q.held bean = b.lastStored calls q.name (q.held new)
  /-- A mutable bean is valid if and only if what it holds happens to be. -/
  valid_iff : d.isMutable = true → (d.Valid bean ↔ ∀ q ∈ d.properties, ∀ check,
    q.spec.check = some check → check.Passes (b.lastStored calls q.name (q.held new)))

/-- Whatever is called on a builder of a declared bean, if it builds. -/
theorem run_checked (hd : d.StylesFit)
    (h : (Descriptor.ofSchema (d.schemaWith home defaults) kind).result = .ok D)
    (converter : ConverterChoice) (calls : List Call)
    (hbuild : ({ D with converter }.builder.run calls).2.build.result = .ok bean) :
    { D with converter }.builder.Checked calls d ⟨d.beanType home, defaults⟩ bean := by
  have hheld (hmutable : d.isMutable = true) (q : DeclaredProperty Ty Value) (hq : q ∈ d.properties) :
      q.held bean = { D with converter }.builder.lastStored calls q.name
        (q.held ⟨d.beanType home, defaults⟩) := by
    obtain ⟨own, derived, hD⟩ := Descriptor.exists_declared h
    have hfresh : { D with converter }.builder.Fresh := fun _ _ => isSet_builder _
    exact held_of_build (hD.withConverter converter) (laid_builder h converter) hfresh hmutable hbuild hq
  constructor
  case valid =>
    intro himmutable
    exact (collects_run himmutable h converter calls).valid hbuild
  case shown =>
    intro himmutable q hq check hcheck
    obtain ⟨-, hread, -⟩ := run_build_read hd himmutable h converter calls hbuild
    obtain ⟨p, v, hp, hv, hget⟩ := hread q hq
    have hpasses := (collects_run himmutable h converter calls).passes_get hbuild hq hcheck hv
    exact ⟨p, q.shown v, hp, hget, DeclaredProperty.passes_shown hpasses⟩
  case held => exact hheld
  case valid_iff =>
    intro hmutable
    constructor
    · intro hvalid q hq check hcheck
      rw [← hheld hmutable q hq]
      exact hvalid q hq check hcheck
    · intro hpasses q hq check hcheck
      rw [hheld hmutable q hq]
      exact hpasses q hq check hcheck

end Builder

namespace BeanDeclaration

theorem parcel_checked :
    ∃ D bean, (Descriptor.ofSchema (parcel.schemaWith "post" []) .handle).result = .ok D ∧
      ({ D with converter := .shared }.builder.run
        [.set "title" (some (.ofString "books"))]).2.build.result = .ok bean ∧
      parcel.Valid bean := by
  obtain ⟨D, bean, hD, hbean⟩ := Builder.exists_of_built (parcel.schemaWith "post" []) .handle
    [.set "title" (some (.ofString "books"))] (by decide +kernel)
  exact ⟨D, bean, hD, hbean, (Builder.run_checked parcel_stylesFit hD .shared _ hbean).valid rfl⟩

section Unchecked

open Declaration

def tag : Item where
  name := "Tag"
  attributes := [⟨"bean", [.word "mutable"], false⟩]
  fields := [⟨"title", "String", [⟨"property", [.text "validate" "not_empty"], false⟩]⟩]

def tagScope : Scope where
  type? text := if text = "String" then some .string else none
  function? _ := none
  annotation? _ := none

def tagText : TextDeclaration where
  name := "Tag"
  kind := .generated
  isMutable := true
  isAutoRegistered := false
  schema := none
  annotations := []
  derived := []
  fields := [{
    ident := "title", type := "String", isBool := false, isNullable := false
    spec := some { check := some .notEmpty } }]

/-- A tag is built without a title, and also with one that is set to an empty text. -/
theorem tag_not_valid :
    ∃ t d D, tag.read = .ok t ∧ tagScope.resolve t = some d ∧
      (Descriptor.ofSchema (d.schemaWith "shop" [some (.ofString "")]) .generated).result = .ok D ∧
      D.builder.build.result = .ok ⟨d.beanType "shop", [some (.ofString "")]⟩ ∧
      (D.builder.run [.set "title" (some (.ofString ""))]).2.build.result =
        .ok ⟨d.beanType "shop", [some (.ofString "")]⟩ ∧
      ¬ d.Valid ⟨d.beanType "shop", [some (.ofString "")]⟩ := by
  refine ⟨tagText, _, _, by decide +kernel, rfl, rfl, rfl, rfl, fun hvalid => ?_⟩
  obtain ⟨w, hw, hfull⟩ := hvalid _ List.mem_cons_self .notEmpty rfl
  cases hw
  exact hfull .string

end Unchecked

end BeanDeclaration

end Beans
