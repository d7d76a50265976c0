import Beans.Proofs.Agreement
import Beans.Proofs.ArgumentLists
/-!
# Names of declared properties

The property of a field is named as the field, without the mark of a raw word. A derived property is named
as it is written, with the mark. Derived properties do not share names with those of fields, since the
reading of a declaration refuses that, but it lets pass two of them of one name. The descriptor is refused
for the first name that is repeated and for nothing else.
-/

set_option autoImplicit false

namespace Beans

/-! ### Repeated names -/

/-- The name is the first one in the list that stands there already. -/
def FirstRepeated (names : List String) (name : String) : Prop :=
  ∃ before after, names = before ++ name :: after ∧ before.Nodup ∧ name ∈ before

namespace FirstRepeated

variable {names rest : List String} {name name' : String}

theorem append (h : FirstRepeated names name) (rest : List String) :
    FirstRepeated (names ++ rest) name := by
  obtain ⟨before, after, rfl, hbefore, hmem⟩ := h
  exact ⟨before, after ++ rest, by simp, hbefore, hmem⟩

theorem not_nodup (h : FirstRepeated names name) : ¬ names.Nodup := by
  obtain ⟨before, after, rfl, -, hmem⟩ := h
  exact fun hnodup => not_mem_of_nodup_split hnodup hmem

theorem unique (h : FirstRepeated names name) (h' : FirstRepeated names name') : name = name' := by
  obtain ⟨before, after, rfl, hbefore, hmem⟩ := h
  obtain ⟨before', after', hsplit, hbefore', hmem'⟩ := h'
  rcases List.append_eq_append_iff.mp hsplit with ⟨between, rfl, htail⟩ | ⟨between, rfl, htail⟩
  · cases between with
    | nil => exact (List.cons.inj htail).1
    | cons x between =>
      obtain rfl := (List.cons.inj htail).1
      exact absurd hmem (not_mem_of_nodup_split hbefore')
  · cases between with
    | nil => exact (List.cons.inj htail).1.symm
    | cons x between =>
      obtain rfl := (List.cons.inj htail).1
      exact absurd hmem' (not_mem_of_nodup_split hbefore)

end FirstRepeated

/-! ### Properties that are refused -/

namespace Schema

variable {s : Schema} {kind : AccessorKind} {e : BeanError}

theorem insert_eq_error {t : PropertyTable} {type : BeanType} {p : Property}
    (h : t.insert type p = .error e) :
    p.name ∈ t.properties.map (·.name) ∧ e = .duplicateProperty type p.name := by
  unfold PropertyTable.insert at h
  split at h
  · next htaken =>
    cases h
    exact ⟨PropertyTable.contains_index.mp htaken, rfl⟩
  · cases h

/-- A property is refused for its name, or something is behind it. -/
theorem firstRepeated_of_insert {α : Type} {t : PropertyTable} {p : Property} {rest : List String}
    {next : PropertyTable → Except BeanError α} (ht : (t.properties.map (·.name)).Nodup)
    (hnext : ∀ r : PropertyTable, (r.properties.map (·.name)).Nodup → next r = .error e →
      ∃ name, FirstRepeated (r.properties.map (·.name) ++ rest) name ∧
        e = .duplicateProperty s.type name)
    (h : (t.insert s.type p >>= next) = .error e) :
    ∃ name, FirstRepeated (t.properties.map (·.name) ++ p.name :: rest) name ∧
      e = .duplicateProperty s.type name := by
  rcases bind_eq_error.mp h with hinsert | ⟨r, hinsert, h⟩
  · obtain ⟨hmem, he⟩ := insert_eq_error hinsert
    exact ⟨p.name, ⟨t.properties.map (·.name), rest, rfl, ht, hmem⟩, he⟩
  · obtain ⟨name, hrepeated, he⟩ := hnext r (PropertyTable.distinct_of_insert ht hinsert) h
    rw [(PropertyTable.insert_eq_ok hinsert).2] at hrepeated
    exact ⟨name, by simpa using hrepeated, he⟩

/-- Where nothing else is wrong with the properties, the first name that is taken is what they are
refused for. -/
theorem firstRepeated_of_addFieldProperties {fields : List (Field × FieldStyle)} {l : PropertyLayout}
    (hfields : ∀ x ∈ fields, ∀ slot, ∃ p, s.fieldProperty kind slot x.1 x.2 = .ok p)
    (hl : (l.properties.map (·.name)).Nodup) (h : s.addFieldProperties kind l fields = .error e) :
    ∃ name, FirstRepeated (l.properties.map (·.name) ++ fields.map (·.1.name)) name ∧
      e = .duplicateProperty s.type name := by
  induction fields generalizing l with
  | nil => cases h
  | cons x fields ih =>
    obtain ⟨hx, hfields⟩ := List.forall_mem_cons.mp hfields
    obtain ⟨p, hp⟩ := hx l.slotTypes.length
    unfold addFieldProperties at h
    rw [hp] at h
    rw [List.map_cons, ← (fieldProperty_ofField hp).name]
    refine firstRepeated_of_insert hl (fun t => ?_) h
    exact ih (l := ⟨t, l.slotTypes ++ [p.slotType], l.nullable ++ [x.1.isNullable]⟩) hfields

theorem firstRepeated_of_addDerivedProperties {getters : List (Method × String × Ty)}
    {t : PropertyTable}
    (hgetters : ∀ x ∈ getters, ∃ p, s.derivedProperty kind x.1 x.2.1 x.2.2 = .ok p)
    (ht : (t.properties.map (·.name)).Nodup) (h : s.addDerivedProperties kind t getters = .error e) :
    ∃ name, FirstRepeated (t.properties.map (·.name) ++ getters.map (·.2.1)) name ∧
      e = .duplicateProperty s.type name := by
  induction getters generalizing t with
  | nil => cases h
  | cons x getters ih =>
    obtain ⟨⟨p, hp⟩, hgetters⟩ := List.forall_mem_cons.mp hgetters
    unfold addDerivedProperties at h
    rw [hp] at h
    rw [List.map_cons, ← (derivedProperty_ofGetter hp).name]
    exact firstRepeated_of_insert ht (fun _ => ih hgetters) h

theorem firstRepeated_of_allProperties
    (hfields : ∀ x ∈ s.propertyFields, ∀ slot, ∃ p, s.fieldProperty kind slot x.1 x.2 = .ok p)
    (hgetters : ∀ x ∈ s.derivedGetters, ∃ p, s.derivedProperty kind x.1 x.2.1 x.2.2 = .ok p)
    (h : s.allProperties kind = .error e) :
    ∃ name, FirstRepeated (s.ownNames ++ s.derivedNames) name ∧ e = .duplicateProperty s.type name := by
  rcases bind_eq_error.mp h with h | ⟨l, hl, h⟩
  · obtain ⟨name, hrepeated, he⟩ :=
      firstRepeated_of_addFieldProperties (l := ∅) hfields List.nodup_nil h
    rw [names_propertyFields] at hrepeated
    exact ⟨name, hrepeated.append s.derivedNames, he⟩
  · obtain ⟨-, -, -, hdistinct, -⟩ := addFieldProperties_eq_ok hl
    rcases bind_eq_error.mp h with h | ⟨t, -, h⟩
    · obtain ⟨name, hrepeated, he⟩ :=
        firstRepeated_of_addDerivedProperties hgetters (hdistinct List.nodup_nil) h
      rw [names_of_addFieldProperties hl, names_derivedGetters] at hrepeated
      exact ⟨name, hrepeated, he⟩
    · cases h

end Schema

/-! ### Names that an item declares -/

namespace Declaration

def BeanArgument.derived? : BeanArgument → Option (DerivedDeclaration String String)
  | .derived x => some x
  | _ => none

def Attribute.derived (a : Attribute) : List (DerivedDeclaration String String) :=
  match Token.ofText? a.written with
  | some tokens => (ReadArguments.ofTokens BeanArgument.reader tokens).arguments.filterMap (·.derived?)
  | none => []

namespace Item

/-- The names of the fields that are properties, without the marks of raw words. -/
def fieldNames (item : Item) : List String :=
  (item.fields.filter fun f => f.attributes.any (·.isNamed "property")).map (plainName ·.name)

/-- The names of the derived properties as they are written, in all attributes of the bean. -/
def derivedNames (item : Item) : List String :=
  ((item.attributes.filter (·.isNamed "bean")).flatMap (·.derived)).map (·.name)

end Item

namespace BeanOptions

variable {o o' : BeanOptions}

theorem accept_addsDerived : Adds accept derived BeanArgument.derived? := by
  intro o o' a h
  cases accept_eq_ok.mp h <;> simp [BeanArgument.derived?]

/-- One attribute after the other adds what it declares. -/
theorem derived_acceptAttributes {attributes : List Attribute}
    (h : acceptAttributes BeanArgument.reader accept "bean" o attributes = .ok o') :
    o'.derived = o.derived ++ (attributes.filter (·.isNamed "bean")).flatMap (·.derived) := by
  unfold acceptAttributes at h
  generalize attributes.filter (·.isNamed "bean") = named at h ⊢
  induction named generalizing o with
  | nil =>
    cases h
    exact (List.append_nil _).symm
  | cons a named ih =>
    rw [List.foldlM_cons] at h
    obtain ⟨next, haccept, h⟩ := bind_eq_ok.mp h
    obtain ⟨tokens, htokens, haccept⟩ := bind_eq_ok.mp haccept
    have hderived : next.derived = o.derived ++ a.derived := by
      unfold tokensOf at htokens
      unfold acceptAll at haccept
      obtain ⟨last, hfold, haccept⟩ := bind_eq_ok.mp haccept
      split at htokens
      · next hread =>
        cases htokens
        split at haccept
        · cases haccept
        · cases haccept
          rw [accept_addsDerived.foldlM hfold, Attribute.derived, hread]
      · cases htokens
    rw [ih h, hderived, List.flatMap_cons, List.append_assoc]

theorem derived_read {attributes : List Attribute} (h : read attributes = .ok o) :
    o.derived = (attributes.filter (·.isNamed "bean")).flatMap (·.derived) :=
  derived_acceptAttributes h

end BeanOptions

/-- A field is a property if there is an attribute of the name on it. -/
theorem PropertyOptions.isSome_of_read {attributes : List Attribute} {o : Option PropertyOptions}
    (h : read attributes = .ok o) : o.isSome = attributes.any (·.isNamed "property") := by
  unfold read at h
  split at h
  · next hany =>
    obtain ⟨_, -, rfl⟩ := map_eq_ok.mp h
    exact hany.symm
  · next hany =>
    cases h
    exact (Bool.eq_false_iff.mpr hany).symm

end Declaration

/-! ### Names of declared properties -/

theorem BeanDeclaration.names_properties {τ φ α : Type} (d : BeanDeclaration τ φ α) :
    d.properties.map (·.name) = (d.fields.filter (·.spec.isSome)).map (·.name) := by
  unfold properties
  generalize d.fields = fields, 0 = cell
  induction fields generalizing cell with
  | nil => rfl
  | cons f fields ih =>
    rw [List.zipIdx_cons, List.filterMap_cons, List.filter_cons]
    cases hspec : f.spec with
    | none => simpa [hspec] using ih (cell + 1)
    | some spec => simpa [hspec, DeclaredProperty.name] using ih (cell + 1)

namespace Declaration

theorem Item.names_of_read {item : Item} {t : TextDeclaration} (h : item.read = .ok t) :
    t.properties.map (·.name) = item.fieldNames ∧ t.derived.map (·.name) = item.derivedNames ∧
      ∀ name ∈ item.derivedNames, name ∉ item.fieldNames := by
  obtain ⟨⟨o, ho, hderived⟩, hfields, hnames⟩ := Item.read_eq_ok h
  have hown : t.properties.map (·.name) = item.fieldNames := by
    rw [t.names_properties]
    refine (map_eq_map_of_forall₂ (List.rel_filter ?_ hfields) ?_).symm
    · intro written f hread
      obtain ⟨-, -, -, options, hoptions, hspec⟩ := ItemField.read_eq_ok hread
      have hsome : f.spec.isSome = written.attributes.any (·.isNamed "property") := by
        rw [hspec, Option.isSome_map, PropertyOptions.isSome_of_read hoptions]
      exact Bool.eq_iff_iff.mp hsome.symm
    · intro written f hread
      exact congrArg plainName (ItemField.read_eq_ok hread).1.symm
  have hdeclared : t.derived.map (·.name) = item.derivedNames := by
    rw [hderived, BeanOptions.derived_read ho]
    rfl
  refine ⟨hown, hdeclared, fun name hname => ?_⟩
  rw [← hdeclared] at hname
  obtain ⟨x, hx, rfl⟩ := List.mem_map.mp hname
  exact hown ▸ hnames x hx

end Declaration

theorem Scope.names_of_resolve {s : Scope} {t : Declaration.TextDeclaration} {d : ResolvedDeclaration}
    (h : s.resolve t = some d) :
    d.properties.map (·.name) = t.properties.map (·.name) ∧
      d.derived.map (·.name) = t.derived.map (·.name) := by
  obtain ⟨hfields, hderived⟩ := resolve_eq_some h
  constructor
  · rw [d.names_properties, t.names_properties]
    refine (map_eq_map_of_forall₂ (List.rel_filter ?_ hfields) ?_).symm
    · intro written f hfield
      have hstyle := congrArg Option.isSome (resolveField_eq_some hfield).2.2.2.2
      rw [Option.isSome_map, Option.isSome_map] at hstyle
      exact Bool.eq_iff_iff.mp hstyle.symm
    · intro written f hfield
      exact congrArg Declaration.plainName (resolveField_eq_some hfield).2.1.symm
  · refine (map_eq_map_of_forall₂ hderived fun written x hx => ?_).symm
    obtain ⟨type, -, hx⟩ := Option.bind_eq_some_iff.mp hx
    obtain ⟨compute, -, hx⟩ := Option.bind_eq_some_iff.mp hx
    cases hx
    rfl

/-! ### Descriptors -/

namespace BeanDeclaration

variable {d : ResolvedDeclaration} {home : String} {kind : AccessorKind} {e : BeanError}

/-- A repeated name is the only thing that the schema of a declared bean is refused for. -/
theorem firstRepeated_of_refused (hbools : d.BoolsFit .bool) {defaults : List (Option Value)}
    (h : (Descriptor.ofSchema (d.schemaWith home defaults) kind).result = .error e) :
    ∃ name, FirstRepeated d.propertyNames name ∧ e = .duplicateProperty (d.beanType home) name := by
  cases hall : (d.schemaWith home defaults).allProperties kind with
  | error e' =>
    rw [Descriptor.ofSchema_of_refused hall] at h
    cases h
    rw [← d.names_schemaWith home defaults]
    exact Schema.firstRepeated_of_allProperties (exists_property_of_field home defaults hbools)
      (exists_property_of_getter home defaults) hall
  | ok l =>
    obtain ⟨c, hc⟩ := exists_constructor home defaults hall
    obtain ⟨D, hD⟩ := Descriptor.exists_ofSchema hall hc
    cases h.symm.trans hD

theorem ofSchema_eq_error_iff (hbools : d.BoolsFit .bool) {defaults : List (Option Value)} :
    (Descriptor.ofSchema (d.schemaWith home defaults) kind).result = .error e ↔
      ∃ name, FirstRepeated d.propertyNames name ∧ e = .duplicateProperty (d.beanType home) name := by
  refine ⟨firstRepeated_of_refused hbools, ?_⟩
  rintro ⟨name, hname, rfl⟩
  cases hresult : (Descriptor.ofSchema (d.schemaWith home defaults) kind).result with
  | ok D => exact absurd ((exists_descriptor_iff home defaults hbools).mp ⟨D, hresult⟩) hname.not_nodup
  | error e =>
    obtain ⟨name', hname', rfl⟩ := firstRepeated_of_refused hbools hresult
    rw [hname.unique hname']

end BeanDeclaration

/-- What the names are that an item declares, and what becomes of them in its schema. -/
structure Declaration.Item.Names (item : Item) (s : Schema) (kind : AccessorKind) : Prop where
  own : s.ownNames = item.fieldNames
  derived : s.derivedNames = item.derivedNames
  generated : s.generated.map (·.name) = item.fieldNames ++ item.derivedNames
  apart : ∀ name ∈ item.derivedNames, name ∉ item.fieldNames
  listed : ∀ D, (Descriptor.ofSchema s kind).result = .ok D →
    D.propertyNames = item.fieldNames ++ item.derivedNames
  described : (∃ D, (Descriptor.ofSchema s kind).result = .ok D) ↔
    item.fieldNames.Nodup ∧ item.derivedNames.Nodup
  /-- No descriptor is refused for anything else. -/
  refused : ∀ e, (Descriptor.ofSchema s kind).result = .error e ↔
    ∃ name, FirstRepeated (item.fieldNames ++ item.derivedNames) name ∧
      e = .duplicateProperty s.type name

namespace BeanDeclaration

/-- Every declaration that is read names its properties as the item does, and has a descriptor exactly
if neither the fields nor the derived properties repeat a name. -/
theorem names_of_item {item : Declaration.Item} {t : Declaration.TextDeclaration} {scope : Scope}
    {d : ResolvedDeclaration} (hread : item.read = .ok t) (hresolve : scope.resolve t = some d)
    (hbool : scope.type? "bool" = some .bool) (home : String) (defaults : List (Option Value))
    (kind : AccessorKind) : item.Names (d.schemaWith home defaults) kind := by
  have hbools := Scope.boolsFit_of_resolve hresolve hbool (Declaration.Item.boolsFit_of_read hread)
  obtain ⟨hfields, hderived, hapart⟩ := Declaration.Item.names_of_read hread
  obtain ⟨hfields', hderived'⟩ := Scope.names_of_resolve hresolve
  have hown : (d.schemaWith home defaults).ownNames = item.fieldNames := by
    rw [ownNames_schemaWith, hfields', hfields]
  have hgetters : (d.schemaWith home defaults).derivedNames = item.derivedNames := by
    rw [derivedNames_schemaWith, hderived', hderived]
  have hnames : d.propertyNames = item.fieldNames ++ item.derivedNames := by
    rw [propertyNames, hfields', hfields, hderived', hderived]
  constructor
  case own => exact hown
  case derived => exact hgetters
  case generated => rw [names_generated, hown, hgetters]
  case apart => exact hapart
  case listed =>
    intro D hD
    rw [(Descriptor.ofSchema_wellFormed hD).names, hown, hgetters]
  case described =>
    rw [exists_descriptor_iff home _ hbools, hnames, List.nodup_append]
    constructor
    · rintro ⟨hfields, hderived, -⟩
      exact ⟨hfields, hderived⟩
    · rintro ⟨hfields, hderived⟩
      exact ⟨hfields, hderived, fun a ha b hb hab => hapart b hb (hab ▸ ha)⟩
  case refused =>
    intro e
    rw [ofSchema_eq_error_iff hbools, hnames]
    rfl

theorem lantern_names :
    ∃ d, lanternScope.resolve lanternText = some d ∧
      lantern.Names (d.schemaWith "shed" []) .generated ∧
      (d.schemaWith "shed" []).ownNames = ["lit", "type", "limit"] ∧
      (d.schemaWith "shed" []).derivedNames = ["label"] ∧
      ∃ D, (Descriptor.ofSchema (d.schemaWith "shed" []) .generated).result = .ok D := by
  have hread : lantern.read = .ok lanternText := by decide +kernel
  have hresolve : lanternScope.resolve lanternText = some _ := rfl
  have hfields : lantern.fieldNames = ["lit", "type", "limit"] := by decide +kernel
  have hderived : lantern.derivedNames = ["label"] := by decide +kernel
  have hnames := names_of_item hread hresolve rfl "shed" [] .generated
  refine ⟨_, hresolve, hnames, hnames.own.trans hfields, hnames.derived.trans hderived, ?_⟩
  rw [hnames.described, hfields, hderived]
  decide

section Ledger

open Declaration

/-- A derived property is written raw as a field is, and two more are derived in different attributes
under one name. -/
def ledger : Item where
  name := "Ledger"
  attributes := [
    ⟨"bean", [.derived "r#type" "u8" "code", .derived "total" "u8" "sum"], false⟩,
    ⟨"bean", [.derived "total" "u8" "sum"], false⟩]
  fields := [⟨"r#type", "u8", [⟨"property", [], false⟩]⟩]

def ledgerScope : Scope where
  type? text := if text = "u8" then some (.int .u8) else none
  function? _ := some fun _ => .ofInt .u8 0
  annotation? _ := none

def ledgerText : TextDeclaration where
  name := "Ledger"
  kind := .generated
  isMutable := false
  isAutoRegistered := false
  schema := none
  annotations := []
  derived := [⟨"r#type", "u8", "code"⟩, ⟨"total", "u8", "sum"⟩, ⟨"total", "u8", "sum"⟩]
  fields := [{ ident := "r#type", type := "u8", isBool := false, isNullable := false, spec := some {} }]

/-- The item is read. One of its names is not plain, one is repeated, and no strategy has a descriptor. -/
theorem ledger_not_described :
    ∃ t d, ledger.read = .ok t ∧ t.schema = none ∧ ledgerScope.resolve t = some d ∧
      (d.schemaWith "office" []).ownNames = ["type"] ∧
      (d.schemaWith "office" []).derivedNames = ["r#type", "total", "total"] ∧
      ∀ kind, (Descriptor.ofSchema (d.schemaWith "office" []) kind).result =
        .error (.duplicateProperty (d.beanType "office") "total") := by
  refine ⟨ledgerText, _, by decide +kernel, rfl, rfl, by decide +kernel, by decide +kernel, ?_⟩
  intro kind
  cases kind <;> rfl

end Ledger

end BeanDeclaration

end Beans
