import Beans.Accessor.Basic
/-!
# Accessors

An accessor reads and writes one property of a bean. There is one kind for each strategy; each is made
from a binding, and refuses bindings whose members it cannot reach.
-/

set_option autoImplicit false

namespace Beans

/-! ### Looking members up at each call -/

structure ReflectiveAccessor where
  schema : Schema
  binding : Binding

namespace ReflectiveAccessor

/-- Refuses a binding whose members are missing now. -/
def ofBinding? (s : Schema) (b : Binding) : Except BeanError ReflectiveAccessor :=
  if (b.read.find? s).isNone then .error (.notReadable s.type b.property)
  else match b.write with
    | some w =>
      if (w.find? s).isNone then .error (.accessorNotFound s.type w.name) else .ok ⟨s, b⟩
    | none => .ok ⟨s, b⟩

def read (a : ReflectiveAccessor) (bean : Bean) : Except BeanError (Option Value) :=
  match a.binding.read.find? a.schema with
  | some read => read.invoke a.binding.property bean
  | none => .error (.notReadable a.schema.type a.binding.property)

def write (a : ReflectiveAccessor) (v : Option Value) : BeanM BeanError Unit :=
  match a.binding.write.bind (·.find? a.schema) with
  | some write => write.invoke a.binding.property v
  | none => throw (.notWritable a.binding.property)

def isWritable (a : ReflectiveAccessor) : Bool :=
  a.binding.write.isSome

def debug (a : ReflectiveAccessor) : String :=
  Text.debugRecord "ReflectiveAccessor"
    [("schema", a.schema.debug), ("members", a.binding.debug)]

end ReflectiveAccessor

/-! ### Looking members up once -/

structure HandleAccessor where
  property : String
  reader : Reader
  writer : Option Writer

namespace HandleAccessor

def ofBinding? (s : Schema) (b : Binding) : Except BeanError HandleAccessor := do
  let some reader := b.read.find? s | throw (.notReadable s.type b.property)
  match b.write with
  | none => return ⟨b.property, reader, none⟩
  | some w =>
    let some writer := w.find? s | throw (.accessorNotFound s.type w.name)
    return ⟨b.property, reader, some writer⟩

def read (a : HandleAccessor) (bean : Bean) : Except BeanError (Option Value) :=
  a.reader.invoke a.property bean

def write (a : HandleAccessor) (v : Option Value) : BeanM BeanError Unit :=
  match a.writer with
  | some write => write.invoke a.property v
  | none => throw (.notWritable a.property)

def isWritable (a : HandleAccessor) : Bool :=
  a.writer.isSome

def debug (a : HandleAccessor) : String :=
  Text.debugRecord "HandleAccessor"
    [("property", Text.debugString a.property), ("writable", Text.debugBool a.isWritable)]

end HandleAccessor

/-! ### Using the generated accessor -/

structure GeneratedAccessor where
  entry : GeneratedAccess
  isWritable : Bool

namespace GeneratedAccessor

/-- Of the binding only the property matters, and whether it is written. -/
def ofBinding? (s : Schema) (b : Binding) : Except BeanError GeneratedAccessor := do
  let some entry := s.generated? b.property | throw (.notReadable s.type b.property)
  if b.write.isSome && entry.write.isNone then throw (.accessorNotFound s.type b.property)
  return ⟨entry, b.write.isSome⟩

def read (a : GeneratedAccessor) (bean : Bean) : Except BeanError (Option Value) :=
  a.entry.read.invoke a.entry.name bean

def write (a : GeneratedAccessor) (v : Option Value) : BeanM BeanError Unit :=
  match a.entry.write, a.isWritable with
  | some write, true => write.invoke a.entry.name v
  | _, _ => throw (.notWritable a.entry.name)

def debug (a : GeneratedAccessor) : String :=
  Text.debugRecord "GeneratedBinding"
    [("entry", a.entry.debug), ("writable", Text.debugBool a.isWritable)]

end GeneratedAccessor

/-! ### Any of them -/

inductive Accessor where
  | reflective (a : ReflectiveAccessor)
  | handle (a : HandleAccessor)
  | generated (a : GeneratedAccessor)

namespace Accessor

def ofBinding? (s : Schema) (b : Binding) : AccessorKind → Except BeanError Accessor
  | .reflective => (ReflectiveAccessor.ofBinding? s b).map reflective
  | .handle => (HandleAccessor.ofBinding? s b).map handle
  | .generated => (GeneratedAccessor.ofBinding? s b).map generated

def kind : Accessor → AccessorKind
  | reflective _ => .reflective
  | handle _ => .handle
  | generated _ => .generated

def read : Accessor → Bean → Except BeanError (Option Value)
  | reflective a => a.read
  | handle a => a.read
  | generated a => a.read

def write : Accessor → Option Value → BeanM BeanError Unit
  | reflective a => a.write
  | handle a => a.write
  | generated a => a.write

def isWritable : Accessor → Bool
  | reflective a => a.isWritable
  | handle a => a.isWritable
  | generated a => a.isWritable

def debug : Accessor → String
  | reflective a => a.debug
  | handle a => a.debug
  | generated a => a.debug

end Accessor

end Beans
