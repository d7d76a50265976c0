import Beans.Proofs.DeclaredBuilder
import Beans.Proofs.Describable
/-!
# Descriptors of declarations

The schema that a declaration comes to has a descriptor wherever its properties have different names, and
this lists what was declared: the properties of fields and then the derived ones, in order and in the types
in which they were declared. Getters are declared by the spelling of a type and found by its meaning, which
is the same if the text `bool` has the meaning that it is read with.
-/

set_option autoImplicit false

namespace Beans

/-- The type in which the property of a declared field is read: that of the field if the property is wrapped
or may not be null, and otherwise that of what the `Option` holds. -/
structure DeclaredProperty.ReadAs (q : DeclaredProperty Ty Value) (t : Ty) : Prop where
  wrapped : q.spec.getStyle = .wrapped → q.field.fieldType = t ∧ t = .option q.type
  nullable : q.spec.getStyle ≠ .wrapped → q.isNullable = true → q.field.fieldType = .option t
  other : q.spec.getStyle ≠ .wrapped → q.isNullable = false → q.field.fieldType = t

theorem DeclaredProperty.readAs_shownType {q : DeclaredProperty Ty Value}
    (hfit : q.spec.getStyle = .wrapped → q.isNullable = true) : q.ReadAs q.shownType := by
  have hother (h : q.spec.getStyle ≠ .wrapped) : q.shownType = q.type := if_neg h
  constructor
  case wrapped =>
    intro h
    have hshown : q.shownType = .option q.type := if_pos h
    rw [hshown]
    exact ⟨fieldType_of_isNullable (hfit h), rfl⟩
  case nullable =>
    intro h hnull
    rw [hother h]
    exact fieldType_of_isNullable hnull
  case other =>
    intro h hnull
    rw [hother h]
    exact fieldType_of_not_isNullable hnull

/-- A descriptor lists what was declared. -/
structure Descriptor.Lists (d : ResolvedDeclaration) (home : String) (defaults : List (Option Value))
    (D : Descriptor) : Prop where
  names : D.propertyNames = d.properties.map (·.name) ++ d.derived.map (·.name)
  field : ∀ (i : Nat) (q : DeclaredProperty Ty Value), d.properties[i]? = some q →
    ∃ p, D.properties[i]? = some p ∧ p.name = q.name ∧ q.ReadAs p.type
  derived : ∀ (i : Nat) (x : DerivedDeclaration Ty Compute), d.derived[i]? = some x →
    ∃ p, D.properties[d.properties.length + i]? = some p ∧ p.name = x.name ∧ p.type = x.type
  /-- The only constructor takes what the properties of fields are set to. -/
  constructor : (d.schemaWith home defaults).constructors = [D.constructor] ∧
    (d.isMutable = false → D.constructor.MatchesExactly (Schema.slotTypes D.properties))

namespace BeanDeclaration

variable {d : ResolvedDeclaration} {home : String} {defaults : List (Option Value)} {kind : AccessorKind} {D : Descriptor}

theorem lists_of_ofSchema (hd : d.StylesFit)
    (h : (Descriptor.ofSchema (d.schemaWith home defaults) kind).result = .ok D) : D.Lists d home defaults := by
  obtain ⟨own, derived, hD⟩ := Descriptor.exists_declared h
  constructor
  case names =>
    rw [(Descriptor.ofSchema_wellFormed h).names, names_schemaWith, propertyNames]
  case field =>
    intro i q hq
    obtain ⟨p, hp, hdeclares⟩ := hD.own_at hq
    have hfit := isNullable_of_wrapped hd (List.mem_of_getElem? hq)
    refine ⟨p, ?_, hdeclares.name, ?_⟩
    · rw [hD.properties, List.getElem?_append_left (List.getElem?_eq_some_iff.mp hp).1]
      exact hp
    · rw [hdeclares.type]
      exact DeclaredProperty.readAs_shownType hfit
  case derived =>
    intro i x hx
    obtain ⟨own, derived, hall, hown, hderived, -, -⟩ := Descriptor.properties_of_ofSchema h
    have hlength : own.length = d.properties.length := by
      rw [Schema.length_own hown, ownNames_schemaWith, List.length_map]
    rw [derivedGetters_schemaWith, List.forall₂_map_left_iff] at hderived
    obtain ⟨p, hp, hgetter⟩ := exists_getElem?_left hderived.flip hx
    have hposition : D.properties[d.properties.length + i]? = some p := by
      rw [hall, ← hlength, List.getElem?_append_right (Nat.le_add_right _ _), Nat.add_sub_cancel_left]
      exact hp
    obtain ⟨a, -, rfl⟩ := Schema.derivedProperty_eq_ok.mp hgetter
    exact ⟨_, hposition, rfl, rfl⟩
  case constructor =>
    refine ⟨?_, fun himmutable => ?_⟩
    · rw [hD.constructor]
      rfl
    · rw [Constructor.MatchesExactly, (hD.constructor_eq himmutable).1, hD.slotTypes]

/-- Every declaration that is read has a descriptor if its names are different, under every strategy. -/
theorem exists_lists {item : Declaration.Item} {t : Declaration.TextDeclaration} {scope : Scope}
    (hread : item.read = .ok t) (hresolve : scope.resolve t = some d)
    (hbool : scope.type? "bool" = some .bool)
    (hnames : (d.properties.map (·.name) ++ d.derived.map (·.name)).Nodup) (home : String)
    (defaults : List (Option Value)) (kind : AccessorKind) :
    ∃ D, (Descriptor.ofSchema (d.schemaWith home defaults) kind).result = .ok D ∧ D.Lists d home defaults := by
  have hstyles := Scope.stylesFit_of_resolve hresolve (Declaration.Item.stylesFit_of_read hread)
  have hbools := Scope.boolsFit_of_resolve hresolve hbool (Declaration.Item.boolsFit_of_read hread)
  obtain ⟨D, hD⟩ := (exists_descriptor_iff home defaults hbools).mpr hnames
  exact ⟨D, hD, lists_of_ofSchema hstyles hD⟩

section Lantern

open Declaration

/-- A question, a name that is written raw, an `Option` that is shown as a whole, one that holds another, a
field that is no property, and a label that is derived. -/
def lantern : Item where
  name := "Lantern"
  attributes := [⟨"bean", [.derived "label" "String" "text"], false⟩]
  fields := [
    ⟨"lit", "bool", [⟨"property", [], false⟩]⟩,
    ⟨"r#type", "Option<String>", [⟨"property", [.text "get" "wrapped"], false⟩]⟩,
    ⟨"limit", "Option<Option<u8>>", [⟨"property", [], false⟩]⟩,
    ⟨"wick", "u8", []⟩]

def lanternScope : Scope where
  type? text := [("bool", Ty.bool), ("String", .string), ("Option<u8>", .option (.int .u8)),
    ("u8", .int .u8)].lookup text
  function? _ := some fun _ => .ofString "lantern"
  annotation? _ := none

def lanternText : TextDeclaration where
  name := "Lantern"
  kind := .generated
  isMutable := false
  isAutoRegistered := false
  schema := none
  annotations := []
  derived := [⟨"label", "String", "text"⟩]
  fields := [
    { ident := "lit", type := "bool", isBool := true, isNullable := false, spec := some {} },
    { ident := "r#type", type := "String", isBool := false, isNullable := true
      spec := some { getStyle := .wrapped } },
    { ident := "limit", type := "Option<u8>", isBool := false, isNullable := true, spec := some {} },
    { ident := "wick", type := "u8", isBool := false, isNullable := false, spec := none }]

theorem lantern_lists :
    ∃ d D, lanternScope.resolve lanternText = some d ∧
      (Descriptor.ofSchema (d.schemaWith "shed" []) .reflective).result = .ok D ∧ D.Lists d "shed" [] ∧
      D.propertyNames = ["lit", "type", "limit", "label"] := by
  have hread : lantern.read = .ok lanternText := by decide +kernel
  have hresolve : lanternScope.resolve lanternText = some _ := rfl
  obtain ⟨D, hD, hlists⟩ := exists_lists hread hresolve rfl (by decide +kernel) "shed" [] .reflective
  refine ⟨_, D, hresolve, hD, hlists, ?_⟩
  rw [hlists.names]
  decide +kernel

end Lantern

end BeanDeclaration

end Beans
