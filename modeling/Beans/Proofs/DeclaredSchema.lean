import Beans.Declaration.Schema
import Beans.Proofs.Coherence
/-!
# Schemas of declarations

A property is declared three times over, and each time it does the same. So the schema of a declaration
is coherent, and which strategy the declaration names decides about nothing that can be observed.
-/

set_option autoImplicit false

namespace Beans

namespace DeclaredProperty

variable {p : DeclaredProperty Ty Value} {isMutable : Bool} {type : BeanType}

def access (p : DeclaredProperty Ty Value) (isMutable : Bool) (type : BeanType) : GeneratedAccess :=
  (p.outlineAccess isMutable).toAccess type

theorem field_matches (p : DeclaredProperty Ty Value) (isMutable : Bool) (type : BeanType) :
    ((p.outlineField isMutable).toField type).Matches (p.access isMutable type) := by
  refine ⟨rfl, rfl, ?_, rfl⟩
  intro hstyle
  have hread : p.propertyRead = p.fieldRead := by
    unfold propertyRead
    rw [if_neg]
    intro hwrapped
    apply hstyle
    simp only [OutlineField.toField, outlineField, fieldStyle, hwrapped]
  simp only [OutlineField.toField, outlineField, access, outlineAccess, OutlineAccess.toAccess, hread]

theorem eq_of_mem_outlineMethods {o : OutlineMethod Ty Compute}
    (h : o ∈ p.outlineMethods isMutable) :
    o = .getter p.getterName p.returned p.propertyRead.lift none ∨
      ∃ write, p.writeIf isMutable = some write ∧ o = .setter p.setterName p.type write := by
  unfold outlineMethods at h
  split at h
  · rcases List.mem_cons.mp h with rfl | h
    · exact Or.inl rfl
    · obtain ⟨write, hwrite, rfl⟩ := Option.map_eq_some_iff.mp (Option.mem_toList.mp h)
      exact Or.inr ⟨write, hwrite, rfl⟩
  · cases h

theorem method_matches {o : OutlineMethod Ty Compute} (h : o ∈ p.outlineMethods isMutable) :
    (o.toMethod type).Reads (p.access isMutable type) ∨
      (o.toMethod type).Writes (p.access isMutable type) := by
  rcases eq_of_mem_outlineMethods h with rfl | ⟨write, hwrite, rfl⟩
  · refine Or.inl ⟨?_, rfl⟩
    simp only [OutlineMethod.toMethod, getterName]
    split
    · exact Or.inr rfl
    · exact Or.inl rfl
  · refine Or.inr ⟨rfl, rfl, ?_⟩
    simp only [OutlineMethod.toMethod, Method.writer?, access, outlineAccess,
      OutlineAccess.toAccess, hwrite, Option.map_some]

theorem derived_eq_none {o : OutlineMethod Ty Compute} (h : o ∈ p.outlineMethods isMutable) :
    (o.toMethod type).derived = none := by
  rcases eq_of_mem_outlineMethods h with rfl | ⟨write, _, rfl⟩
  · rfl
  · rfl

theorem isSome_write (p : DeclaredProperty Ty Value) (isMutable : Bool) (type : BeanType) :
    (p.access isMutable type).write.isSome = isMutable := by
  cases isMutable <;> rfl

end DeclaredProperty

namespace DerivedDeclaration

def access (x : DerivedDeclaration Ty Compute) (type : BeanType) : GeneratedAccess :=
  x.outlineAccess.toAccess type

def getter (x : DerivedDeclaration Ty Compute) (type : BeanType) : Method :=
  x.outlineMethod.toMethod type

theorem getter_reads (x : DerivedDeclaration Ty Compute) (type : BeanType) :
    (x.getter type).Reads (x.access type) :=
  ⟨Or.inl rfl, rfl⟩

end DerivedDeclaration

namespace BeanDeclaration

variable (d : ResolvedDeclaration) (home : String) (defaults : List (Option Value))

/-! ### Members -/

theorem fields_schemaWith :
    (d.schemaWith home defaults).fields =
      d.properties.map fun p => (p.outlineField d.isMutable).toField (d.beanType home) :=
  List.map_map

theorem methods_schemaWith :
    (d.schemaWith home defaults).methods =
      (d.properties.flatMap (·.outlineMethods d.isMutable)).map (·.toMethod (d.beanType home)) ++
        d.derived.map (·.getter (d.beanType home)) := by
  change List.map _ (_ ++ _) = _
  rw [List.map_append, List.map_map]
  rfl

theorem generated_schemaWith :
    (d.schemaWith home defaults).generated =
      d.properties.map (·.access d.isMutable (d.beanType home)) ++
        d.derived.map (·.access (d.beanType home)) := by
  change List.map _ (_ ++ _) = _
  rw [List.map_append, List.map_map, List.map_map]
  rfl

variable {d home defaults}

theorem exists_of_mem_fields {f : Field} (h : f ∈ (d.schemaWith home defaults).fields) :
    ∃ p ∈ d.properties, (p.outlineField d.isMutable).toField (d.beanType home) = f := by
  rw [fields_schemaWith] at h
  exact List.mem_map.mp h

theorem exists_of_mem_methods {m : Method} (h : m ∈ (d.schemaWith home defaults).methods) :
    (∃ p ∈ d.properties, ∃ o ∈ p.outlineMethods d.isMutable, o.toMethod (d.beanType home) = m) ∨
      ∃ x ∈ d.derived, x.getter (d.beanType home) = m := by
  rw [methods_schemaWith] at h
  rcases List.mem_append.mp h with h | h
  · obtain ⟨o, ho, hm⟩ := List.mem_map.mp h
    obtain ⟨p, hp, ho⟩ := List.mem_flatMap.mp ho
    exact Or.inl ⟨p, hp, o, ho, hm⟩
  · exact Or.inr (List.mem_map.mp h)

theorem access_mem_generated {p : DeclaredProperty Ty Value} (hp : p ∈ d.properties) :
    p.access d.isMutable (d.beanType home) ∈ (d.schemaWith home defaults).generated := by
  rw [generated_schemaWith]
  exact List.mem_append_left _ (List.mem_map_of_mem hp)

theorem derived_access_mem_generated {x : DerivedDeclaration Ty Compute} (hx : x ∈ d.derived) :
    x.access (d.beanType home) ∈ (d.schemaWith home defaults).generated := by
  rw [generated_schemaWith]
  exact List.mem_append_right _ (List.mem_map_of_mem hx)

/-- The entries of field properties stand before those of derived ones. -/
theorem exists_of_generated? {p : DeclaredProperty Ty Value} (hp : p ∈ d.properties)
    {e : GeneratedAccess} (he : (d.schemaWith home defaults).generated? p.name = some e) :
    ∃ q ∈ d.properties, q.access d.isMutable (d.beanType home) = e := by
  obtain ⟨first, hfirst, hfind, _⟩ := exists_find?_of_mem GeneratedAccess.name
    (List.mem_map_of_mem (f := fun p => p.access d.isMutable (d.beanType home)) hp)
  have heq : first = e := by
    unfold Schema.generated? at he
    rw [generated_schemaWith, List.find?_append] at he
    exact Option.some.inj ((congrArg (Option.or · _) hfind).symm.trans he)
  rw [← heq]
  exact List.mem_map.mp hfirst

variable (d home defaults)

/-! ### Names -/

theorem ownNames_eq_fields :
    (d.schemaWith home defaults).ownNames = (d.schemaWith home defaults).fields.map (·.name) := by
  unfold Schema.ownNames
  rw [List.filter_eq_self.mpr]
  intro f hf
  obtain ⟨p, _, rfl⟩ := exists_of_mem_fields hf
  rfl

theorem derivedGetters_schemaWith :
    (d.schemaWith home defaults).derivedGetters =
      d.derived.map fun x => (x.getter (d.beanType home), x.name, x.type) := by
  unfold Schema.derivedGetters
  rw [methods_schemaWith, List.filterMap_append]
  have hown : ((d.properties.flatMap (·.outlineMethods d.isMutable)).map
      (·.toMethod (d.beanType home))).filterMap
        (fun m => do return (m, ← m.derived, ← m.returns?)) = [] := by
    apply List.filterMap_eq_nil_iff.mpr
    intro m hm
    obtain ⟨o, ho, rfl⟩ := List.mem_map.mp hm
    obtain ⟨p, _, ho⟩ := List.mem_flatMap.mp ho
    rw [DeclaredProperty.derived_eq_none ho]
    rfl
  rw [hown, List.nil_append, List.filterMap_map, ← List.filterMap_eq_map]
  rfl

theorem derivedNames_schemaWith :
    (d.schemaWith home defaults).derivedNames = d.derived.map (·.name) := by
  rw [← Schema.names_derivedGetters, derivedGetters_schemaWith, List.map_map]
  rfl

theorem names_generated :
    (d.schemaWith home defaults).generated.map (·.name) =
      (d.schemaWith home defaults).ownNames ++ (d.schemaWith home defaults).derivedNames := by
  rw [ownNames_eq_fields, derivedNames_schemaWith, generated_schemaWith, fields_schemaWith,
    List.map_append, List.map_map, List.map_map, List.map_map]
  rfl

/-! ### Coherence -/

/-- All members of a declared property do the same. -/
theorem schemaWith_coherent : (d.schemaWith home defaults).Coherent := by
  constructor
  case ancestors => rfl
  case own => exact d.ownNames_eq_fields home defaults
  case names => exact d.names_generated home defaults
  case field =>
    intro f hf
    obtain ⟨p, hp, rfl⟩ := exists_of_mem_fields hf
    exact ⟨_, access_mem_generated hp, p.field_matches d.isMutable _⟩
  case method =>
    intro m hm
    rcases exists_of_mem_methods hm with ⟨p, hp, o, ho, rfl⟩ | ⟨x, hx, rfl⟩
    · exact ⟨_, access_mem_generated hp, p.method_matches ho⟩
    · exact ⟨_, derived_access_mem_generated hx, Or.inl (x.getter_reads _)⟩
  case derived =>
    intro m hm name hname
    rcases exists_of_mem_methods hm with ⟨p, _, o, ho, rfl⟩ | ⟨x, hx, rfl⟩
    · rw [p.derived_eq_none ho] at hname
      cases hname
    · cases hname
      exact ⟨_, derived_access_mem_generated hx, rfl, rfl, x.getter_reads _⟩
  case isWritable =>
    intro f hf
    obtain ⟨p, _, rfl⟩ := exists_of_mem_fields hf
    exact p.isSome_write d.isMutable _
  case firstWrites =>
    intro f hf e he
    obtain ⟨p, hp, rfl⟩ := exists_of_mem_fields hf
    obtain ⟨q, _, rfl⟩ := exists_of_generated? hp he
    exact q.isSome_write d.isMutable _

/-- The strategies come to indistinguishable descriptors of a declared bean, or to the same refusal. -/
theorem strategies_indistinguishable (kind kind' : AccessorKind) :
    SameOutcome Descriptor.Indistinguishable
      (Descriptor.ofSchema (d.schemaWith home defaults) kind).result
      (Descriptor.ofSchema (d.schemaWith home defaults) kind').result :=
  ((d.schemaWith_coherent home defaults).ofSchema_sameOutcome kind kind').mono
    fun _ _ h => h.indistinguishable

section Dial

/-- A dial with a scale of its own type, which starts in the middle. -/
def dial : ResolvedDeclaration where
  name := "Dial"
  kind := .generated
  isMutable := true
  isAutoRegistered := false
  schema := none
  annotations := []
  derived := [⟨"shown", .bool, fun _ => .ofBool true⟩]
  fields := [
    { ident := "angle", type := .int .u16, isBool := false, isNullable := false, spec := some {} },
    { ident := "scale", type := .leaf { path := "plant::Scale", shape := .other }, isBool := false
      isNullable := false, spec := some {} }]

theorem dial_indistinguishable :
    let scale := Value.leaf { path := "plant::Scale", shape := .other } (.pair (.choice 1) (.choice 2))
    let middle := [some (.ofInt .u16 180), some scale]
    ∃ D D', (Descriptor.ofSchema (dial.schemaWith "plant" middle) .reflective).result = .ok D ∧
      (Descriptor.ofSchema (dial.schemaWith "plant" middle) .generated).result = .ok D' ∧
      D.Indistinguishable D' ∧
      D.builder.build.result = .ok ⟨dial.beanType "plant", middle⟩ ∧
      (D'.builder.run [.set "angle" (some (.ofInt .u16 90))]).2.build.result =
        .ok ⟨dial.beanType "plant", [some (.ofInt .u16 90), some scale]⟩ := by
  intro scale middle
  refine ⟨_, _, rfl, rfl, ?_, rfl, rfl⟩
  have houtcome := strategies_indistinguishable dial "plant" middle .reflective .generated
  cases houtcome with
  | ok h => exact h

end Dial

end BeanDeclaration

end Beans
