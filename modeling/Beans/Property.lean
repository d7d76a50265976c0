import Beans.Accessor.Strategy
import Beans.Value.Coercion
/-!
# Properties

A property is read from a bean as a value of its type, and set to a value of its slot type. The two may
differ by `Option` layers: a property whose getter wraps the value in an `Option` is set to the value
itself. A value offered to a property is accepted if only such layers have to be added or taken away,
and then coerced to the slot type.
-/

set_option autoImplicit false

namespace Beans

inductive PropertyStyle where
  | immutable
  | readWrite
  /-- Computed from others. -/
  | derived
deriving DecidableEq, Repr

def PropertyStyle.debug : PropertyStyle → String
  | immutable => "Immutable"
  | readWrite => "ReadWrite"
  | derived => "Derived"

structure Property where
  name : String
  declaringType : BeanType
  /-- The type of the values that are read. -/
  type : Ty
  /-- The type of the values that are set. -/
  slotType : Ty
  style : PropertyStyle
  /-- The position among the properties that are set when a bean is built. -/
  slot? : Option Nat
  annotations : Annotations
  accessor : Accessor

namespace Property

def isWritable (p : Property) : Bool :=
  p.style = .readWrite && p.accessor.isWritable

def isBuildable (p : Property) : Bool :=
  p.style ≠ .derived

def constructorIndex? (p : Property) : Option Nat :=
  if p.style = .immutable then p.slot? else none

def checkBean (p : Property) (b : Bean) : Except BeanError Unit :=
  if b.type = p.declaringType then .ok () else .error (.wrongBeanType p.declaringType b.type)

def get (p : Property) (b : Bean) : Except BeanError (Option Value) := do
  p.checkBean b
  p.accessor.read b

def getAs (p : Property) (type : Ty) (b : Bean) : Except BeanError (Option Value) := do
  match ← p.get b with
  | none => return none
  | some v => if v.type = type then return some v else throw (.typeMismatch p.name type v.type)

/-- Whether values of a type may be offered to the property. One more `Option` layer than the slot type
has is allowed, and its absent value then means null. -/
def accepts (p : Property) (found : Ty) : Bool :=
  p.type.isAssignableFrom found || p.slotType.isAssignableFrom found
    || match found with
      | .option item => p.slotType.isAssignableFrom item
      | _ => false

def accept (p : Property) (v : Value) : Except BeanError (Option Value) :=
  if p.accepts v.type then
    (v.coerce p.slotType).mapError fun rest => .typeMismatch p.name p.slotType rest.type
  else .error (.typeMismatch p.name p.type v.type)

def accept? (p : Property) : Option Value → Except BeanError (Option Value)
  | none => .ok none
  | some v => p.accept v

def set (p : Property) (v : Option Value) : BeanM BeanError Unit := do
  if p.style ≠ .readWrite then throw (.notWritable p.name)
  ofExcept (p.checkBean (← getThe Bean))
  p.accessor.write (← ofExcept (p.accept? v))

def debug (p : Property) : String :=
  Text.debugRecord "PropertyDescriptor"
    [("name", Text.debugString p.name), ("declaring_type", p.declaringType.path),
     ("property_type", p.type.path), ("style", p.style.debug), ("accessor", p.accessor.debug)]

end Property

end Beans
