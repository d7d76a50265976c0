import Beans.Descriptor.Layout
/-!
# Builders

A builder collects the values of a new bean. A bean that is not mutable is built by its constructor
from all values at once; a mutable one by the constructor without parameters and then, property by
property, by writing those values that were set. A call that fails leaves the builder as it was.
-/

set_option autoImplicit false

namespace Beans

structure BuilderSlot where
  value : Option Value
  /-- Whether the value was set by a call. -/
  isSet : Bool := false

structure Builder where
  descriptor : Descriptor
  slots : List BuilderSlot

namespace Descriptor

def slotCount (d : Descriptor) : Nat :=
  (d.properties.filter (·.slot?.isSome)).length

def builder (d : Descriptor) : Builder where
  descriptor := d
  slots :=
    if d.isMutable then List.replicate d.slotCount { value := none }
    else d.prototype.map fun v => { value := v }

end Descriptor

namespace Builder

/-- The property of a name and its slot, if it is set when a bean is built. -/
def buildable (b : Builder) (name : String) : Except BeanError (Property × Nat) :=
  match b.descriptor.find? name with
  | none => .error (.unknownProperty b.descriptor.type name)
  | some p =>
    match p.slot?, p.isBuildable with
    | some slot, true => .ok (p, slot)
    | _, _ => .error (.notWritable p.name)

def set (b : Builder) (name : String) (v : Option Value) : Except BeanError Builder := do
  let (p, slot) ← b.buildable name
  let v ← p.accept? v
  return { b with slots := b.slots.set slot { value := v, isSet := true } }

/-- Reads a value for the property of a name from text, and offers it. The text of an `Option` is that
of its content. -/
def setText (b : Builder) (name text : String) : Except BeanError Builder := do
  let (p, _) ← b.buildable name
  let target := p.type.unwrapped
  match b.descriptor.converter.converter.read target text with
  | .ok v => b.set name (some v)
  | .error e => .error (.unreadableText p.name text target e)

def get (b : Builder) (name : String) : Except BeanError (Option Value) := do
  let (_, slot) ← b.buildable name
  return b.slots[slot]?.bind (·.value)

/-- The arguments of the constructor, each coerced to the type of its parameter. -/
def arguments (b : Builder) : Except BeanError (List (Option Value)) :=
  let bean := b.descriptor.type
  (b.slots.zip b.descriptor.constructor.params).zipIdx.mapM fun ((slot, param), index) =>
    match slot.value with
    | none => .ok none
    | some v => (v.coerce param).mapError fun rest =>
        .constructionFailed bean (.wrongArgument bean.path index param rest.type)

def construct (b : Builder) (arguments : List (Option Value)) : Except BeanError Bean :=
  let bean := b.descriptor.type
  (b.descriptor.constructor.invoke ⟨bean.path, arguments⟩).mapError (.constructionFailed bean)

/-- Writes the values that were set for the properties. -/
def writeAll (b : Builder) (properties : List Property) : BeanM BeanError Unit :=
  properties.forM fun p =>
    match p.slot?.bind (b.slots[·]?) with
    | some ⟨v, true⟩ => (p.accessor.write v).adapt (.initializationFailed b.descriptor.type)
    | _ => pure ()

def bean (b : Builder) : Except BeanError Bean :=
  if b.descriptor.isMutable then
    match b.construct [] with
    | .error e => .error e
    | .ok new =>
      match b.writeAll b.descriptor.properties new with
      | (.ok (), built) => .ok built
      | (.error e, _) => .error e
  else do
    b.construct (← b.arguments)

def build (b : Builder) : Logged (Except BeanError Bean) := do
  let means := if b.descriptor.isMutable then "setters" else "constructor"
  .write .trace s!"building `{b.descriptor.type.path}` through its {means}"
  return b.bean

def buildAs (b : Builder) (type : BeanType) : Logged (Except BeanError Bean) := do
  let built ← b.build
  return do
    let bean ← built
    if bean.type = type then return bean else throw (.wrongBeanType type bean.type)

def debug [Traits] (b : Builder) : String :=
  Text.debugMap <| b.descriptor.properties.filterMap fun p => do
    let slot ← p.slot?
    return (Text.debugString p.name, Value.debug? (b.slots[slot]?.bind (·.value)))

end Builder

end Beans
