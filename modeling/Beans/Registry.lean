import Beans.Builder
/-!
# Registries

A registry keeps the descriptors of bean types. A type is described when it is first looked up, and
what that comes to, a descriptor or an error, stays its entry. Handles on one table may differ in the
strategy that they ask for and in their converter; these matter only to entries made through them.

A `Catalog` says what is known about bean types without a registry: their schemas, the strategies
that they declare, and which of them may be found without having been looked up before.
-/

set_option autoImplicit false

namespace Beans

structure Catalog where
  schemaOf : BeanType → Schema
  declaredKind : BeanType → AccessorKind
  autoRegistered : List BeanType

/-- What the description of a type came to. -/
abbrev Entry := Except BeanError Descriptor

structure RegistryTable where
  entries : Table BeanType Entry := ∅
  paths : Table String BeanType := ∅

instance : EmptyCollection RegistryTable := ⟨{}⟩

abbrev RegistryM := StateT RegistryTable Logged

/-- An operation on the table of a registry that may fail. The table keeps what was entered before the
failure. -/
abbrev LookupM := ExceptT BeanError RegistryM

structure Registry where
  catalog : Catalog
  kind : Option AccessorKind := none
  converter : ConverterChoice := .shared

namespace RegistryTable

/-- Enters what a description came to, unless the type has an entry. -/
def publish (t : RegistryTable) (type : BeanType) (path : String) (entry : Entry) :
    Entry × RegistryTable :=
  let (published, entries) := t.entries.getOrInsert type entry
  (published, { entries, paths := t.paths.insertIfNew path type })

def atPath? (t : RegistryTable) (path : String) : Option Entry :=
  (t.paths.get? path).bind t.entries.get?

def size (t : RegistryTable) : Nat :=
  t.entries.size

def contains (t : RegistryTable) (type : BeanType) : Bool :=
  t.entries.contains type

end RegistryTable

namespace Registry

def describe (r : Registry) (type : BeanType) : Logged Entry := do
  let s := r.catalog.schemaOf type
  match ← Descriptor.ofSchema s (r.kind.getD (r.catalog.declaredKind type)) with
  | .ok d => return .ok { d with converter := r.converter }
  | .error e =>
    .write .warn s!"failed to describe `{s.type.path}`: {e.message}"
    return .error e

/-- The entry of a type, which is described if it has none. -/
def lookup (r : Registry) (type : BeanType) : LookupM Descriptor := do
  match (← getThe RegistryTable).entries.get? type with
  | some entry => ofExcept entry
  | none =>
    let entry ← (r.describe type : Logged Entry)
    let path := (r.catalog.schemaOf type).type.path
    ofExcept (← modifyGetThe RegistryTable fun t => t.publish type path entry)

def lookupBean (r : Registry) (b : Bean) : LookupM Descriptor :=
  r.lookup b.type

/-- The entry of a type that has one, or that is known to the catalog as one to be found. -/
def lookupType (r : Registry) (type : Ty) : LookupM Descriptor := do
  match type with
  | .bean b =>
    if (← getThe RegistryTable).contains b || r.catalog.autoRegistered.contains b then r.lookup b
    else throw (.beanNotFound type.path)
  | _ => throw (.beanNotFound type.path)

def lookupPath (r : Registry) (path : String) : LookupM Descriptor := do
  match (← getThe RegistryTable).atPath? path with
  | some entry => ofExcept entry
  | none =>
    match r.catalog.autoRegistered.find? (fun b => (r.catalog.schemaOf b).type.path == path) with
    | some b => r.lookup b
    | none => throw (.beanNotFound path)

/-- Enters a descriptor for a type that has no entry. One with the shared converter gets that of the
handle. -/
def register (r : Registry) (d : Descriptor) : LookupM Descriptor := do
  let d := match d.converter with
    | .shared => { d with converter := r.converter }
    | .own _ => d
  if (← getThe RegistryTable).contains d.type then
    (Logged.write .warn s!"rejected duplicate registration of `{d.type.path}`" : Logged Unit)
    throw (.duplicateRegistration d.type)
  (Logged.write .debug s!"registered `{d.type.path}`" : Logged Unit)
  modifyThe RegistryTable fun t =>
    { entries := t.entries.insert d.type (.ok d), paths := t.paths.insert d.type.path d.type }
  return d

def debug (r : Registry) (t : RegistryTable) : String :=
  Text.debugOpenRecord "BeanRegistry"
    [("entries", toString t.size), ("accessor", Text.debugOption (r.kind.map AccessorKind.debug))]

end Registry

def Catalog.debugFactory (c : Catalog) (type : BeanType) : String :=
  Text.debugRecord "BeanFactory"
    [("type", (c.schemaOf type).type.path), ("accessor", (c.declaredKind type).debug)]

end Beans
