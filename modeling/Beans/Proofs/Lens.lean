import Beans.Proofs.DeclaredAccess
/-!
# Lens laws

The property of a declared field of a mutable bean is a lens on the cell of the field, as far as values
are accepted: what was set is read, what was read can be set, of two values the last one counts, and
nothing else changes, nothing at all where a value is refused. Different properties do not disturb each
other.
-/

set_option autoImplicit false

namespace Beans

namespace Property

/-- The laws of a property of a declared field, on one bean. -/
structure Lens (q : DeclaredProperty Ty Value) (p : Property) (b : Bean) : Prop where
  /-- What was set is read, coerced to the type of the property. -/
  get_set : ∀ v b', v.WellTyped → p.set (some v) b = (.ok (), b') →
    ∃ r, v.coerce p.type = .ok r ∧ p.get b' = .ok r
  get_set_null : ∀ b', p.set none b = (.ok (), b') →
    p.get b' = .ok (if q.spec.getStyle = .wrapped then some (.option q.type none) else none)
  get_set_wrapped : q.spec.getStyle = .wrapped → ∀ v b', v.type = q.type →
    p.set (some v) b = (.ok (), b') → p.get b' = .ok (some (.option q.type (some v)))
  frame : ∀ v b', p.set v b = (.ok (), b') →
    b'.type = b.type ∧ ∀ i, i ≠ q.cell → b'.cell? i = b.cell? i
  refused : ∀ v e b', p.set v b = (.error e, b') → b' = b
  set_get : ∃ v, p.get b = .ok v ∧ p.set v b = (.ok (), b)
  set_set : ∀ v w b' b'', p.set v b = (.ok (), b') → p.set w b' = (.ok (), b'') →
    p.set w b = (.ok (), b'')

def Commute (p p' : Property) (b : Bean) : Prop :=
  ∀ v v', (p.set v b).1 = (p.set v (p'.set v' b).2).1 ∧
    (p'.set v' (p.set v b).2).1 = (p'.set v' b).1 ∧
    (p'.set v' (p.set v b).2).2 = (p.set v (p'.set v' b).2).2

/-- What setting a value comes to, for every bean of a type: it is refused, or the content of one cell is
replaced. -/
inductive SetOutcome (q : DeclaredProperty Ty Value) (p : Property) (type : BeanType) (v : Option Value) :
    Prop where
  | stored (w : Option Value) (accepted : p.accept? v = .ok w) (takes : q.Takes w)
    (set : ∀ b : Bean, b.type = type → p.set v b = (.ok (), b.setCell q.cell (q.stored w)))
  | refused (e : BeanError) (set : ∀ b : Bean, b.type = type → p.set v b = (.error e, b))

namespace Declares

variable {q : DeclaredProperty Ty Value} {type : BeanType} {slot : Nat} {p : Property} {b : Bean}

theorem set_of_takes (h : p.Declares q true b.type slot) {v w : Option Value}
    (haccept : p.accept? v = .ok w) (htakes : q.Takes w) :
    p.set v b = (.ok (), b.setCell q.cell (q.stored w)) := by
  rw [set_eq h.style h.declaringType.symm, haccept]
  exact h.write_of_takes htakes

theorem setOutcome (h : p.Declares q true type slot) (v : Option Value) : p.SetOutcome q type v := by
  cases haccept : p.accept? v with
  | error e =>
    refine .refused e fun b hb => ?_
    rw [set_eq h.style (hb.trans h.declaringType.symm), haccept]
  | ok w =>
    have hadmits : q.type.Admits w := h.slotType ▸ admits_of_accept? haccept
    by_cases hnull : q.isNullable = false ∧ w = none
    · obtain ⟨hnull, rfl⟩ := hnull
      refine .refused (.invocationFailed q.name (.nullValue q.name)) fun b hb => ?_
      subst hb
      rw [set_eq h.style h.declaringType.symm, haccept]
      exact h.write_null hnull
    · have htakes : q.Takes w := ⟨hadmits, fun h hw => hnull ⟨h, hw⟩⟩
      refine .stored w haccept htakes fun b hb => ?_
      subst hb
      exact h.set_of_takes haccept htakes

theorem exists_of_set (h : p.Declares q true b.type slot) {v : Option Value} {b' : Bean}
    (hset : p.set v b = (.ok (), b')) :
    ∃ w, p.accept? v = .ok w ∧ q.Takes w ∧ b' = b.setCell q.cell (q.stored w) := by
  cases h.setOutcome v with
  | refused e hrefused =>
    rw [hrefused b rfl] at hset
    cases hset
  | stored w haccept htakes hstored =>
    rw [hstored b rfl] at hset
    cases hset
    exact ⟨w, haccept, htakes, rfl⟩

theorem get_setCell (h : p.Declares q true b.type slot)
    (hfit : q.spec.getStyle = .wrapped → q.isNullable = true) (w : Option Value) :
    p.get (b.setCell q.cell (q.stored w)) = .ok (q.shown w) := by
  have hcell : (b.setCell q.cell (q.stored w)).cell? q.cell = q.stored w := by
    rw [Bean.cell?_setCell, if_pos rfl]
  exact Declares.get_of_cell (b := b.setCell q.cell (q.stored w)) h hfit hcell

theorem lens (h : p.Declares q true b.type slot)
    (hfit : q.spec.getStyle = .wrapped → q.isNullable = true)
    (htakes : q.Takes (q.held b)) (hcell : b.cell? q.cell = q.stored (q.held b)) : p.Lens q b := by
  have hpresent : b.cell? q.cell ≠ none := by
    rw [hcell]
    exact DeclaredProperty.stored_ne_none htakes
  constructor
  case get_set =>
    intro v b' hv hset
    obtain ⟨w, haccept, _, rfl⟩ := h.exists_of_set hset
    obtain ⟨haccepts, hcoerce⟩ := accept?_eq_ok.mp haccept
    refine ⟨q.shown w, ?_, h.get_setCell hfit w⟩
    rw [h.type, DeclaredProperty.shownType, DeclaredProperty.shown]
    split
    · rw [← h.slotType]
      exact coerce_option_of_accepts h.showsSlot hv haccepts hcoerce
    · rw [← h.slotType]
      exact hcoerce
  case get_set_null =>
    intro b' hset
    obtain ⟨w, haccept, _, rfl⟩ := h.exists_of_set hset
    cases haccept
    exact h.get_setCell hfit none
  case get_set_wrapped =>
    intro hwrapped v b' hv hset
    obtain ⟨w, haccept, _, rfl⟩ := h.exists_of_set hset
    have hadmits : p.slotType.Admits (some v) := Ty.admits_some.mpr (hv.trans h.slotType.symm)
    rw [accept?_of_admits hadmits] at haccept
    cases haccept
    rw [← DeclaredProperty.shown_of_wrapped hwrapped]
    exact h.get_setCell hfit (some v)
  case frame =>
    intro v b' hset
    obtain ⟨w, _, _, rfl⟩ := h.exists_of_set hset
    refine ⟨rfl, fun i hi => ?_⟩
    rw [Bean.cell?_setCell, if_neg (Ne.symm hi)]
  case refused =>
    intro v e b' hset
    cases h.setOutcome v with
    | refused e' hrefused =>
      rw [hrefused b rfl] at hset
      cases hset
      rfl
    | stored w _ _ hstored =>
      rw [hstored b rfl] at hset
      cases hset
  case set_get =>
    refine ⟨q.shown (q.held b), h.get_of_cell hfit hcell, ?_⟩
    rw [h.set_of_takes (h.accept?_shown htakes.admits) htakes, ← hcell, Bean.setCell_cell? hpresent]
  case set_set =>
    intro v w b' b'' hv hw
    obtain ⟨x, _, _, rfl⟩ := h.exists_of_set hv
    have hafter : p.Declares q true (b.setCell q.cell (q.stored x)).type slot := h
    obtain ⟨y, haccept, htakes, rfl⟩ := hafter.exists_of_set hw
    rw [Bean.setCell_setCell (Bean.lt_length_of_cell? hpresent)]
    exact h.set_of_takes haccept htakes

theorem commute {q' : DeclaredProperty Ty Value} {slot' : Nat} {p' : Property}
    (h : p.Declares q true b.type slot) (h' : p'.Declares q' true b.type slot')
    (hne : q.cell ≠ q'.cell) (hq : q.cell < b.cells.length) (hq' : q'.cell < b.cells.length) :
    p.Commute p' b := by
  intro v v'
  cases h.setOutcome v with
  | refused e hset =>
    cases h'.setOutcome v' with
    | refused e' hset' =>
      rw [hset b rfl, hset' b rfl]
      dsimp only
      rw [hset b rfl]
      exact ⟨rfl, rfl, rfl⟩
    | stored w' _ _ hset' =>
      rw [hset b rfl, hset' b rfl]
      dsimp only
      rw [hset (b.setCell q'.cell (q'.stored w')) rfl]
      exact ⟨rfl, rfl, rfl⟩
  | stored w _ _ hset =>
    cases h'.setOutcome v' with
    | refused e' hset' =>
      rw [hset b rfl, hset' b rfl]
      dsimp only
      rw [hset' (b.setCell q.cell (q.stored w)) rfl, hset b rfl]
      exact ⟨rfl, rfl, rfl⟩
    | stored w' _ _ hset' =>
      rw [hset b rfl, hset' b rfl]
      dsimp only
      rw [hset (b.setCell q'.cell (q'.stored w')) rfl, hset' (b.setCell q.cell (q.stored w)) rfl]
      exact ⟨rfl, rfl, Bean.setCell_comm hq hq' hne⟩

end Declares

end Property

namespace BeanDeclaration

variable {d : ResolvedDeclaration} {home : String} {defaults : List (Option Value)}
  {kind : AccessorKind} {D : Descriptor} {b : Bean}

/-- The properties of the fields of a mutable bean are lenses on each instance, and any two of them
commute. -/
theorem properties_lens (hd : d.StylesFit) (hmutable : d.isMutable = true)
    (h : (Descriptor.ofSchema (d.schemaWith home defaults) kind).result = .ok D)
    (hb : d.IsInstance home b) :
    (∀ q ∈ d.properties, ∃ p, D.property q.name = .ok p ∧ p.Lens q b) ∧
      ∀ q ∈ d.properties, ∀ q' ∈ d.properties, q.name ≠ q'.name →
        ∃ p p', D.property q.name = .ok p ∧ D.property q'.name = .ok p' ∧ p.Commute p' b := by
  obtain ⟨own, derived, hD⟩ := Descriptor.exists_declared h
  have hproperty : ∀ q ∈ d.properties,
      ∃ p slot, D.property q.name = .ok p ∧ p.Declares q true b.type slot := by
    intro q hq
    rw [← hmutable, hb.type]
    exact hD.property hq
  constructor
  · intro q hq
    obtain ⟨p, slot, hp, hdeclares⟩ := hproperty q hq
    obtain ⟨htakes, hcell⟩ := hb.cell_eq hq
    exact ⟨p, hp, hdeclares.lens (isNullable_of_wrapped hd hq) htakes hcell⟩
  · intro q hq q' hq' hne
    obtain ⟨p, slot, hp, hdeclares⟩ := hproperty q hq
    obtain ⟨p', slot', hp', hdeclares'⟩ := hproperty q' hq'
    have hcells : q.cell ≠ q'.cell := by
      intro hsame
      have heq : q = q' := List.inj_on_of_nodup_map d.nodup_cells hq hq' hsame
      exact hne (heq ▸ rfl)
    exact ⟨p, p', hp, hp',
      hdeclares.commute hdeclares' hcells (hb.lt_length hq) (hb.lt_length hq')⟩

/-- Mutable, with a level under two `Option` layers and a field that is no property. -/
def gauge : ResolvedDeclaration where
  name := "Gauge"
  kind := .handle
  isMutable := true
  isAutoRegistered := false
  schema := none
  annotations := []
  derived := [⟨"label", .string, fun _ => .ofString "gauge"⟩]
  fields := [
    { ident := "pressure", type := .int .u32, isBool := false, isNullable := false, spec := some {} },
    { ident := "level", type := .option (.int .u8), isBool := false, isNullable := true
      spec := some { getStyle := .wrapped } },
    { ident := "samples", type := .list (.int .u32), isBool := false, isNullable := false
      spec := none }]

theorem gauge_stylesFit : gauge.StylesFit := by
  simp [StylesFit, DeclaredField.StyleFits, gauge, GetStyle.needsOption]

def gaugeInstance : Bean where
  type := gauge.beanType "plant"
  cells := [some (.ofInt .u32 7), some (.option (.option (.int .u8)) (some (.option (.int .u8) none))),
    some (.list (.int .u32) [.ofInt .u32 7])]

theorem isInstance_gaugeInstance : gauge.IsInstance "plant" gaugeInstance := by
  have hrange : IntKind.u32.InRange 7 := by decide
  have hpressure : ∃ v, gaugeInstance.cell? 0 = some v ∧ v.type = .int .u32 ∧ v.WellTyped :=
    ⟨.ofInt .u32 7, rfl, rfl, hrange⟩
  have hlevel : ∃ v, gaugeInstance.cell? 1 = some v ∧ v.type = .option (.option (.int .u8)) ∧
      v.WellTyped :=
    ⟨_, rfl, rfl, rfl, trivial⟩
  exact ⟨rfl, List.forall_mem_cons.mpr ⟨hpressure, List.forall_mem_cons.mpr ⟨hlevel, nofun⟩⟩⟩

theorem gauge_lens :
    ∃ D, (Descriptor.ofSchema (gauge.schemaWith "plant" []) .reflective).result = .ok D ∧
      (∀ q ∈ gauge.properties, ∃ p, D.property q.name = .ok p ∧ p.Lens q gaugeInstance) ∧
      ∀ q ∈ gauge.properties, ∀ q' ∈ gauge.properties, q.name ≠ q'.name →
        ∃ p p', D.property q.name = .ok p ∧ D.property q'.name = .ok p' ∧
          p.Commute p' gaugeInstance := by
  refine ⟨_, rfl, ?_⟩
  exact @properties_lens gauge "plant" [] .reflective _ _ gauge_stylesFit rfl rfl
    isInstance_gaugeInstance

end BeanDeclaration

end Beans
