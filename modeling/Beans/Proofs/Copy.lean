import Beans.Operations.Copy
import Beans.Proofs.DeclaredAccess
import Beans.Proofs.DeclaredBuilder
import Beans.Proofs.Describable
import Beans.Proofs.Entries
import Beans.Proofs.Lens
import Beans.Proofs.Writing
/-!
# Copies of declared beans

A builder accepts back what the properties of a bean show, and then holds what their fields hold. The bean
that it builds has the same contents in the cells of all properties, and the defaults in the others.
-/

set_option autoImplicit false

namespace Beans

namespace BeanDeclaration

variable {d : ResolvedDeclaration} {home : String} {b c : Bean}

/-- A bean of the same type, with the same contents in the cells of the properties. In the other cells it
has the defaults. -/
structure IsCopy (d : ResolvedDeclaration) (defaults : List (Option Value)) (b c : Bean) : Prop where
  type : c.type = b.type
  cell : ∀ q ∈ d.properties, c.cell? q.cell = b.cell? q.cell
  other : ∀ x ∈ d.others, c.cell? x.1 = (⟨b.type, defaults⟩ : Bean).cell? x.1

/-- The values of the properties pass what is declared to be checked where the bean is built. -/
def Valid (d : ResolvedDeclaration) (b : Bean) : Prop :=
  ∀ q ∈ d.properties, ∀ check, q.spec.check = some check → check.Passes (q.held b)

def holdings (d : ResolvedDeclaration) (b : Bean) : Given :=
  d.properties.map fun q => (q, q.held b)

theorem map_fst_holdings (d : ResolvedDeclaration) (b : Bean) :
    (d.holdings b).map Prod.fst = d.properties := by
  rw [holdings, List.map_map]
  exact List.map_id d.properties

theorem isCopy_holding (defaults : List (Option Value)) (hb : d.IsInstance home b) :
    d.IsCopy defaults b (Bean.holding ⟨b.type, defaults⟩ (d.holdings b)) := by
  constructor
  case type => exact Bean.type_holding _ _
  case cell =>
    intro q hq
    have hheld : (q, q.held b) ∈ d.holdings b := List.mem_map_of_mem hq
    rw [(hb.cell_eq hq).2]
    exact Bean.cell?_holding (d.map_fst_holdings b) hheld
  case other =>
    intro x hx
    exact Bean.cell?_holding_of_other (d.map_fst_holdings b) hx

end BeanDeclaration

namespace Builder

variable {d : ResolvedDeclaration} {home : String} {defaults : List (Option Value)}
  {kind : AccessorKind} {D : Descriptor} {own derived : List Property} {b : Bean} {builder : Builder}
  {isMutable : Bool} {ps : List (DeclaredProperty Ty Value)} {l : List Property}

def heldSlot (b : Bean) (q : DeclaredProperty Ty Value) : BuilderSlot where
  value := q.held b
  isSet := true

theorem set_shown {q : DeclaredProperty Ty Value} {slot : Nat} {p : Property} {v : Option Value}
    (h : p.Declares q isMutable b.type slot) (hfind : builder.descriptor.find? p.name = some p)
    (hv : q.type.Admits v) :
    builder.set p.name (q.shown v) =
      .ok { builder with slots := builder.slots.set slot { value := v, isSet := true } } := by
  have hbuildable := buildable_eq_ok.mpr ⟨hfind, h.slot, h.isBuildable⟩
  exact set_eq_ok.mpr ⟨p, slot, v, hbuildable, h.accept?_shown hv, rfl⟩

theorem setFrom_cons {p : Property} {v : Option Value} {builder' : Builder} (hget : p.get b = .ok v)
    (hset : builder.set p.name v = .ok builder') :
    builder.setFrom b (p :: l) = builder'.setFrom b l := by
  have hstep : builder.setFrom b (p :: l) =
      (p.get b >>= builder.set p.name) >>= fun builder => builder.setFrom b l := rfl
  rw [hstep, hget]
  change (builder.set p.name v >>= fun builder => builder.setFrom b l) = _
  rw [hset]
  rfl

theorem setFrom_eq {first rest : List BuilderSlot}
    (h : List.Forall₂ (fun x p => Property.Declares x.1 isMutable b.type x.2 p)
      (ps.zipIdx first.length) l)
    (hfind : ∀ p ∈ l, builder.descriptor.find? p.name = some p)
    (hslots : builder.slots = first ++ rest) (hrest : rest.length = ps.length)
    (hps : ∀ q ∈ ps, (q.spec.getStyle = .wrapped → q.isNullable = true) ∧
      q.Takes (q.held b) ∧ b.cell? q.cell = q.stored (q.held b)) :
    builder.setFrom b l = .ok { builder with slots := first ++ ps.map (heldSlot b) } := by
  induction ps generalizing first rest builder l with
  | nil =>
    cases h
    have hnothing : rest = [] := List.eq_nil_of_length_eq_zero hrest
    rw [List.map_nil, ← hnothing, ← hslots]
    rfl
  | cons q ps ih =>
    obtain ⟨slot, rest, rfl⟩ := List.exists_cons_of_length_eq_add_one hrest
    obtain ⟨⟨hfit, htakes, hcell⟩, hps⟩ := List.forall_mem_cons.mp hps
    cases h with
    | @cons _ p _ l hp htail =>
      obtain ⟨hfound, hfind⟩ := List.forall_mem_cons.mp hfind
      rw [setFrom_cons (hp.get_of_cell hfit hcell) (set_shown hp hfound htakes.admits)]
      let next : Builder := { builder with slots := builder.slots.set first.length (heldSlot b q) }
      have hnext : next.slots = (first ++ [heldSlot b q]) ++ rest := by
        change builder.slots.set first.length (heldSlot b q) = _
        rw [hslots, List.set_append_right _ _ (Nat.le_refl _), Nat.sub_self, List.set_cons_zero,
          List.append_assoc]
        rfl
      have hlength : (first ++ [heldSlot b q]).length = first.length + 1 := by
        rw [List.length_append, List.length_singleton]
      rw [← hlength] at htail
      calc next.setFrom b l
        _ = .ok { next with slots := first ++ [heldSlot b q] ++ ps.map (heldSlot b) } :=
          ih htail hfind hnext (Nat.succ.inj hrest) hps
        _ = .ok { builder with slots := first ++ (q :: ps).map (heldSlot b) } := by
          rw [List.append_assoc]
          rfl

/-! ### Beans that are written property by property -/

theorem writeAll_eq {new : Bean} {n : Nat} {derived : List Property}
    (h : List.Forall₂ (fun x p => Property.Declares x.1 true new.type x.2 p) (ps.zipIdx n) l)
    (hderived : ∀ p ∈ derived, p.slot? = none)
    (hslots : ∀ x ∈ ps.zipIdx n, builder.slots[x.2]? = some (heldSlot b x.1))
    (htakes : ∀ q ∈ ps, q.Takes (q.held b)) :
    builder.writeAll (l ++ derived) new =
      (.ok (), new.holding (ps.map fun q => (q, q.held b))) := by
  induction ps generalizing n l new with
  | nil =>
    cases h
    exact writeAll_of_slotless hderived new
  | cons q ps ih =>
    obtain ⟨hq, hps⟩ := List.forall_mem_cons.mp htakes
    obtain ⟨hslot, hrest⟩ := List.forall_mem_cons.mp hslots
    cases h with
    | @cons _ p _ l hp htail =>
      rw [List.cons_append, writeAll_of_isSet hp.slot hslot (hp.write_of_takes hq)]
      exact ih htail hrest hps

/-! ### What is built -/

theorem length_slots_builder (hD : D.Declared d home defaults own derived) :
    D.builder.slots.length = d.properties.length := by
  unfold Descriptor.builder
  rw [hD.isMutable]
  cases hmutable : d.isMutable with
  | true =>
    have hcount : D.slotCount = (Schema.slotTypes D.properties).length := by
      rw [Schema.slotTypes, List.length_map]
      rfl
    rw [if_pos rfl, List.length_replicate, hcount, hD.slotTypes, List.length_map]
  | false =>
    rw [if_neg Bool.false_ne_true, List.length_map, hD.prototype hmutable, List.length_map]

theorem setFrom_builder (hD : D.Declared d home defaults own derived) (hd : d.StylesFit)
    (hb : d.IsInstance home b) :
    D.builder.setFrom b (D.properties.filter (·.isBuildable)) =
      .ok { D.builder with slots := d.properties.map (heldSlot b) } := by
  have hown : ∀ p ∈ own, p.isBuildable = true := by
    intro p hp
    obtain ⟨q, slot, hdeclares⟩ := hD.declares_of_mem hp
    exact hdeclares.isBuildable
  have hderived : ∀ p ∈ derived, ¬ p.isBuildable = true := by
    intro p hp
    rw [Property.isBuildable, (hD.derived p hp).2]
    decide
  rw [hD.properties, List.filter_append, List.filter_eq_self.mpr hown,
    List.filter_eq_nil_iff.mpr hderived, List.append_nil]
  have hdeclares := hD.own
  rw [← hb.type] at hdeclares
  have hslots : D.builder.slots = [] ++ D.builder.slots := rfl
  exact setFrom_eq hdeclares (fun _ => hD.find?_own) hslots (length_slots_builder hD)
    fun q hq => ⟨BeanDeclaration.isNullable_of_wrapped hd hq, hb.cell_eq hq⟩

theorem build_mutable (hD : D.Declared d home defaults own derived) (hmutable : d.isMutable = true)
    (hb : d.IsInstance home b) :
    { D.builder with slots := d.properties.map (heldSlot b) }.build.result =
      .ok (Bean.holding ⟨b.type, defaults⟩ (d.holdings b)) := by
  let builder : Builder := { D.builder with slots := d.properties.map (heldSlot b) }
  change builder.bean = _
  have hconstruct : builder.construct [] = .ok ⟨b.type, defaults⟩ := by
    change (D.constructor.invoke _).mapError _ = _
    rw [hD.constructor, BeanDeclaration.outlineConstructor, hmutable, if_pos rfl, hb.type]
    rfl
  have hwrite : builder.writeAll (own ++ derived) ⟨b.type, defaults⟩ =
      (.ok (), Bean.holding ⟨b.type, defaults⟩ (d.holdings b)) := by
    have hdeclares := hD.own
    rw [← hb.type, hmutable] at hdeclares
    refine writeAll_eq hdeclares (fun p hp => (hD.derived p hp).1) ?_ fun q hq => (hb.cell_eq hq).1
    rintro ⟨q, i⟩ hx
    change (d.properties.map (heldSlot b))[i]? = _
    rw [List.getElem?_map, List.mk_mem_zipIdx_iff_getElem?.mp hx]
    rfl
  have hproperties : builder.descriptor.properties = own ++ derived := hD.properties
  have hisMutable : builder.descriptor.isMutable = true := hD.isMutable.trans hmutable
  rw [Builder.bean, if_pos hisMutable, hconstruct, hproperties]
  simp only [hwrite]

theorem build_immutable (himmutable : d.isMutable = false)
    (h : (Descriptor.ofSchema (d.schemaWith home defaults) kind).result = .ok D)
    (converter : ConverterChoice) (hb : d.IsInstance home b) (hvalid : d.Valid b) :
    { { D with converter }.builder with slots := d.properties.map (heldSlot b) }.build.result =
      .ok (Bean.holding ⟨b.type, defaults⟩ (d.holdings b)) := by
  let builder : Builder :=
    { { D with converter }.builder with slots := d.properties.map (heldSlot b) }
  have hcollects : builder.Collects d home defaults := by
    obtain ⟨hdescriptor, _, hslotted, _⟩ := collects_builder himmutable h converter
    refine ⟨hdescriptor, himmutable, hslotted, ?_⟩
    rw [Holds, List.forall₂_map_left_iff, List.forall₂_map_right_iff, List.forall₂_same]
    exact fun q hq => (hb.cell_eq hq).1.admits
  have hgiven : builder.given d = d.holdings b := by
    rw [given, BeanDeclaration.holdings, List.map_prod_left_eq_zip, List.map_map]
    rfl
  have hallows : ∀ x ∈ builder.given d, x.1.Allows x.2 := by
    rw [hgiven, BeanDeclaration.holdings, List.forall_mem_map]
    intro q hq
    unfold DeclaredProperty.Allows
    cases hcheck : q.spec.check with
    | some check => exact hvalid q hq check hcheck
    | none => exact (hb.cell_eq hq).1.present
  rw [hcollects.build_of_allows hallows, assembled, hgiven, ← hb.type]

end Builder

/-! ### Copies -/

theorem Registry.outcome_copy (r : Registry) (b : Bean) (t : RegistryTable) :
    (r.copy b).outcome t = (r.lookup b.type).outcome t >>= fun D =>
      D.builder.setFrom b (D.properties.filter (·.isBuildable)) >>= fun builder =>
        builder.build.result := by
  unfold copy
  rw [LookupM.outcome_bind]
  congr 1
  funext D
  rw [LookupM.outcome_bind, LookupM.outcome_ofExcept]
  congr 1
  funext builder
  rw [LookupM.outcome_bind]
  exact LookupM.outcome_ofExcept builder.build.result _

namespace BeanDeclaration

variable {d : ResolvedDeclaration} {home : String} {defaults : List (Option Value)} {b : Bean}
  {r : Registry} {t : RegistryTable}

/-- Where no two properties of a declared bean share a name, each instance has a copy, and else none has
one, through whichever handle. -/
theorem copy_of_instance (hd : d.StylesFit) (hbools : d.BoolsFit .bool)
    (hs : r.catalog.schemaOf (d.beanType home) = d.schemaWith home defaults)
    (ht : t.Describes (d.beanType home) (d.schemaWith home defaults))
    (hb : d.IsInstance home b) (hvalid : d.isMutable = false → d.Valid b) :
    (d.propertyNames.Nodup → ∃ c, (r.copy b).outcome t = .ok c ∧ d.IsCopy defaults b c) ∧
      (¬ d.propertyNames.Nodup → ∃ e, (r.copy b).outcome t = .error e) := by
  rw [← hs] at ht
  obtain ⟨kind, converter, hlookup⟩ := ht.outcome_lookup
  rw [hs] at hlookup
  rw [Registry.outcome_copy, hb.type, hlookup]
  have hdescriptor : (∃ D, (Descriptor.ofSchema (d.schemaWith home defaults) kind).result = .ok D) ↔ _ :=
    exists_descriptor_iff home defaults hbools
  constructor
  · intro hnames
    obtain ⟨D, hD⟩ := hdescriptor.mpr hnames
    obtain ⟨own, derived, hdeclared⟩ := Descriptor.exists_declared hD
    refine ⟨_, ?_, isCopy_holding defaults hb⟩
    have hconverted := hdeclared.withConverter converter
    have hbuild : ({ { D with converter }.builder with
        slots := d.properties.map (Builder.heldSlot b) } : Builder).build.result =
          .ok (Bean.holding ⟨b.type, defaults⟩ (d.holdings b)) := by
      cases hmutable : d.isMutable with
      | true => exact Builder.build_mutable hconverted hmutable hb
      | false => exact Builder.build_immutable hmutable hD converter hb (hvalid hmutable)
    rw [hD]
    change Builder.setFrom _ b (List.filter _ { D with converter }.properties) >>= _ = _
    rw [Builder.setFrom_builder hconverted hd hb]
    exact hbuild
  · intro hnames
    cases hresult : (Descriptor.ofSchema (d.schemaWith home defaults) kind).result with
    | ok D => exact absurd (hdescriptor.mp ⟨D, hresult⟩) hnames
    | error e => exact ⟨e, rfl⟩

def catalog (d : ResolvedDeclaration) (home : String) (defaults : List (Option Value)) : Catalog where
  schemaOf _ := d.schemaWith home defaults
  declaredKind _ := d.kind
  autoRegistered := []

/-- A gauge is copied through a handle after another one has looked its type up. -/
theorem gauge_copied :
    let defaults : List (Option Value) := [some (.ofInt .u32 100), none, some (.list (.int .u32) [])]
    let catalog := gauge.catalog "plant" defaults
    ∃ c, (Registry.copy ⟨catalog, some .generated, .shared⟩ gaugeInstance).outcome
        ((Registry.lookup ⟨catalog, some .reflective, .shared⟩ (gauge.beanType "plant")).after ∅) =
          .ok c ∧
      gauge.IsCopy defaults gaugeInstance c := by
  intro defaults catalog
  have hbools : gauge.BoolsFit .bool := by
    simp [BoolsFit, gauge]
  have hnames : gauge.propertyNames.Nodup := by decide +kernel
  have hmutable : gauge.isMutable ≠ false := by decide
  have hdescribes := RegistryTable.Describes.after_lookup
    (r := ⟨catalog, some .reflective, .shared⟩)
    (RegistryTable.describes_empty (gauge.beanType "plant") _) (gauge.beanType "plant")
  exact (@copy_of_instance gauge "plant" _ _ _ _ gauge_stylesFit hbools rfl hdescribes
    isInstance_gaugeInstance fun himmutable => absurd himmutable hmutable).1 hnames

/-! ### Derived properties of one name -/

section SharedName

open Declaration

/-- Two properties are derived under the same name. -/
def odometer : Item where
  name := "Odometer"
  attributes := [⟨"bean", [.word "mutable", .derived "total" "u32" "sum", .derived "total" "u32" "sum"],
    false⟩]
  fields := [⟨"hits", "u32", [⟨"property", [], false⟩]⟩]

def odometerScope : Scope where
  type? text := if text = "u32" then some (.int .u32) else none
  function? _ := some fun b => (b.cell? 0).getD (.ofInt .u32 0)
  annotation? _ := none

def odometerText : TextDeclaration where
  name := "Odometer"
  kind := .generated
  isMutable := true
  isAutoRegistered := false
  schema := none
  annotations := []
  derived := [⟨"total", "u32", "sum"⟩, ⟨"total", "u32", "sum"⟩]
  fields := [{ ident := "hits", type := "u32", isBool := false, isNullable := false, spec := some {} }]

/-- The reading of a declaration lets both of them through, and then the bean has no copy. -/
theorem odometer_not_copied :
    ∃ t d, odometer.read = .ok t ∧ odometerScope.resolve t = some d ∧
      d.IsInstance "garage" ⟨d.beanType "garage", [some (.ofInt .u32 7)]⟩ ∧
      (Registry.copy ⟨d.catalog "garage" [], none, .shared⟩
        ⟨d.beanType "garage", [some (.ofInt .u32 7)]⟩).outcome ∅ =
          .error (.duplicateProperty (d.beanType "garage") "total") := by
  refine ⟨odometerText, _, by decide +kernel, rfl, ⟨rfl, ?_⟩, rfl⟩
  have hrange : IntKind.u32.InRange 7 := by decide
  exact List.forall_mem_singleton.mpr ⟨.ofInt .u32 7, rfl, rfl, hrange⟩

end SharedName

end BeanDeclaration

end Beans
