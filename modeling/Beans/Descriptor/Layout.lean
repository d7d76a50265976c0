import Beans.Descriptor.Basic
import Beans.Log
/-!
# Descriptors from schemas

The properties of a schema are those of its own fields, static and inherited ones and those without a
style left out, and after them the ones that its getters derive. A bean that is not mutable is built by
a constructor with one parameter for each field property.
-/

set_option autoImplicit false

namespace Beans

namespace Schema

/-! ### Members of properties -/

/-- The nearest method of a name, if it reads. -/
def findGetter? (s : Schema) (name : String) : Option (Method × Ty) := do
  let m ← s.findMethod? name
  return (m, ← m.returns?)

/-- The getter of an accessor-style field, with the type that it returns. That of a `bool` field may be
named by a question. -/
def getterOf? (s : Schema) (f : Field) : Option (Method × Ty) :=
  let getter := s.findGetter? ("get_" ++ f.name)
  if f.type = .bool then (s.findGetter? ("is_" ++ f.name)).or getter else getter

def readMemberOf (s : Schema) (f : Field) (style : FieldStyle) :
    Except BeanError (ReadMember × Ty) :=
  match style with
  | .field | .optional => .ok (.field f.name, f.type)
  | .accessor =>
    match s.getterOf? f with
    | some (m, returns) => .ok (.getter m.name, if returns.isOption then returns else f.type)
    | none => .error (.accessorNotFound s.type ("get_" ++ f.name))

def setterOf? (s : Schema) (f : Field) (style : FieldStyle) : Option (WriteMember × Ty) := do
  guard (style = .accessor)
  let m ← s.findMethod? ("set_" ++ f.name)
  return (.setter m.name, ← m.param?)

/-- The member that writes a field property, and the type that it takes: a setter, or the field. -/
def writeMemberOf (s : Schema) (f : Field) (style : FieldStyle) :
    Except BeanError (WriteMember × Ty) :=
  match s.setterOf? f style with
  | some found => .ok found
  | none =>
    if f.writer.isSome then .ok (.field f.name, f.type)
    else .error (.accessorNotFound s.type ("set_" ++ f.name))

/-! ### Properties -/

def propertyFields (s : Schema) : List (Field × FieldStyle) :=
  s.fields.filterMap fun f =>
    if f.isStatic || f.isInherited then none else f.style.map (f, ·)

def derivedGetters (s : Schema) : List (Method × String × Ty) :=
  s.methods.filterMap fun m => do
    return (m, ← m.derived, ← m.returns?)

def fieldProperty (s : Schema) (kind : AccessorKind) (slot : Nat) (f : Field) (style : FieldStyle) :
    Except BeanError Property := do
  let (read, type) ← s.readMemberOf f style
  let (write, slotType) ←
    if s.isMutable then
      let (w, t) ← s.writeMemberOf f style
      pure (some w, t)
    else pure (none, f.type)
  return {
    name := f.name
    declaringType := s.type
    type
    slotType
    style := if s.isMutable then .readWrite else .immutable
    slot? := some slot
    annotations := f.annotations
    accessor := ← Accessor.ofBinding? s ⟨f.name, read, write⟩ kind }

def derivedProperty (s : Schema) (kind : AccessorKind) (m : Method) (name : String) (type : Ty) :
    Except BeanError Property := do
  return {
    name
    declaringType := s.type
    type
    slotType := type
    style := .derived
    slot? := none
    annotations := m.annotations
    accessor := ← Accessor.ofBinding? s ⟨name, .getter m.name, none⟩ kind }

/-- The properties of fields, with what a constructor has to be given for them. -/
structure PropertyLayout extends PropertyTable where
  slotTypes : List Ty
  nullable : List Bool

instance : EmptyCollection PropertyLayout where
  emptyCollection := { toPropertyTable := ∅, slotTypes := [], nullable := [] }

/-- Adds the properties of fields. Each gets the slot of the number of those before it. -/
def addFieldProperties (s : Schema) (kind : AccessorKind) (l : PropertyLayout) :
    List (Field × FieldStyle) → Except BeanError PropertyLayout
  | [] => .ok l
  | (f, style) :: rest => do
    let p ← s.fieldProperty kind l.slotTypes.length f style
    let t ← l.insert s.type p
    s.addFieldProperties kind ⟨t, l.slotTypes ++ [p.slotType], l.nullable ++ [f.isNullable]⟩ rest

def addDerivedProperties (s : Schema) (kind : AccessorKind) (t : PropertyTable) :
    List (Method × String × Ty) → Except BeanError PropertyTable
  | [] => .ok t
  | (m, name, type) :: rest => do
    let p ← s.derivedProperty kind m name type
    s.addDerivedProperties kind (← t.insert s.type p) rest

def allProperties (s : Schema) (kind : AccessorKind) : Except BeanError PropertyLayout := do
  let l ← s.addFieldProperties kind ∅ s.propertyFields
  return { l with toPropertyTable := ← s.addDerivedProperties kind l.toPropertyTable s.derivedGetters }

/-! ### Constructors -/

inductive ConstructorSearch where
  | found (c : Constructor)
  | ambiguous
  | missing

/-- The constructor of a bean that is not mutable: the first one whose parameters have the slot types,
or else the only one whose parameters can take values of them. -/
def constructorFor (constructors : List Constructor) (types : List Ty) : ConstructorSearch :=
  match constructors.find? fun c => c.MatchesExactly types with
  | some c => .found c
  | none =>
    match constructors.filter (·.matchesLeniently types) with
    | [c] => .found c
    | [] => .missing
    | _ => .ambiguous

/-- The constructor of a mutable bean: the first one without parameters. -/
def emptyConstructor (constructors : List Constructor) : ConstructorSearch :=
  match constructors.find? fun c => c.arity == 0 with
  | some c => .found c
  | none => .missing

def searchConstructor (s : Schema) (types : List Ty) : ConstructorSearch :=
  if s.isMutable then emptyConstructor s.constructors else constructorFor s.constructors types

/-- What an argument is before it is set: null if the field may be null, otherwise the zero of its
parameter's type, or null if that has none. -/
def prototypeOf (s : Schema) (nullable : List Bool) (c : Constructor) : List (Option Value) :=
  if s.isMutable then []
  else (c.params.zip nullable).map fun (param, isNullable) =>
    if isNullable then none else Value.zero? param

end Schema

namespace Descriptor

def ofSchema (s : Schema) (kind : AccessorKind) : Logged (Except BeanError Descriptor) :=
  match s.allProperties kind with
  | .error e => return .error e
  | .ok l =>
    match s.searchConstructor l.slotTypes with
    | .ambiguous => return .error (.ambiguousConstructor s.type)
    | .missing => do
      if !s.isMutable then
        let listed := Text.commas (l.slotTypes.map Ty.name)
        .write .debug s!"no constructor of `{s.type.path}` takes ({listed})"
      return .error (.constructorNotFound s.type)
    | .found constructor => do
      let count := l.properties.length
      .write .debug s!"described `{s.type.path}` with {count} properties ({kind.debug})"
      return .ok { l.toPropertyTable with
        schema := s
        kind
        constructor
        prototype := s.prototypeOf l.nullable constructor
        converter := .shared }

end Descriptor

end Beans
