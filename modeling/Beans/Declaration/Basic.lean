import Beans.Accessor.Basic
import Beans.Validation
import Beans.Declaration.Token
/-!
# Declarations of beans

A declaration of a bean says which of its fields are properties, how these are read and checked, which
properties are computed, and what holds of the bean as a whole. It does not depend on what a type, a
function or an annotation is: as read from an item they are texts, and later they are types, functions
and values.
-/

set_option autoImplicit false

namespace Beans

/-- How a property of a field is read. -/
inductive GetStyle where
  /-- Through a getter, which reads what the field holds. -/
  | smart
  /-- From the field. -/
  | field
  /-- From a field that may be null. -/
  | optional
  /-- Through a getter of the whole `Option`. -/
  | wrapped
deriving DecidableEq, Repr

namespace GetStyle

def name : GetStyle → String
  | smart => "smart"
  | field => "field"
  | optional => "optional"
  | wrapped => "wrapped"

def ofName? (name : String) : Option GetStyle :=
  [smart, field, optional, wrapped].find? (·.name = name)

def hasGetter : GetStyle → Bool
  | smart | wrapped => true
  | field | optional => false

/-- Whether the style makes sense only for a field that may be null. -/
def needsOption : GetStyle → Bool
  | smart | field => false
  | optional | wrapped => true

end GetStyle

namespace Check

def name : Check → String
  | notNull => "not_null"
  | notEmpty => "not_empty"

def ofName? (name : String) : Option Check :=
  [notNull, notEmpty].find? (·.name = name)

end Check

namespace AccessorKind

def name : AccessorKind → String
  | reflective => "reflective"
  | handle => "handle"
  | generated => "generated"

def ofName? (name : String) : Option AccessorKind :=
  [reflective, handle, generated].find? (·.name = name)

end AccessorKind

/-- What is declared of a field that is a property. -/
structure PropertySpec (α : Type) where
  getStyle : GetStyle := .smart
  check : Option Check := none
  annotations : List α := []
deriving DecidableEq, Repr

structure DeclaredField (τ α : Type) where
  ident : String
  /-- The type of the field, or of its content if the property may be null. -/
  type : τ
  /-- Whether the type is written `bool`. -/
  isBool : Bool
  /-- Whether the field is an `Option`, and so the property may be null. -/
  isNullable : Bool
  /-- A field without this is no property. -/
  spec : Option (PropertySpec α)
deriving DecidableEq, Repr

structure DerivedDeclaration (τ φ : Type) where
  name : String
  type : τ
  compute : φ
deriving DecidableEq, Repr

/-- The declaration of a bean, over types, functions and annotations. -/
structure BeanDeclaration (τ φ α : Type) where
  name : String
  kind : AccessorKind
  isMutable : Bool
  isAutoRegistered : Bool
  /-- The path of a schema that is used instead of the declared one. -/
  schema : Option String
  annotations : List α
  derived : List (DerivedDeclaration τ φ)
  fields : List (DeclaredField τ α)
deriving DecidableEq

structure DeclaredProperty (τ α : Type) where
  /-- The position of the field. -/
  cell : Nat
  field : DeclaredField τ α
  spec : PropertySpec α

variable {τ φ α : Type}

namespace DeclaredField

def name (f : DeclaredField τ α) : String :=
  Declaration.plainName f.ident

end DeclaredField

namespace DeclaredProperty

def name (p : DeclaredProperty τ α) : String :=
  p.field.name

def type (p : DeclaredProperty τ α) : τ :=
  p.field.type

def isNullable (p : DeclaredProperty τ α) : Bool :=
  p.field.isNullable

/-- The name of the getter, which is a question for fields that are true or false. -/
def getterName (p : DeclaredProperty τ α) : String :=
  if p.field.isBool && !p.isNullable && p.spec.getStyle = .smart then "is_" ++ p.name
  else "get_" ++ p.name

def setterName (p : DeclaredProperty τ α) : String :=
  "set_" ++ p.name

end DeclaredProperty

namespace BeanDeclaration

def properties (d : BeanDeclaration τ φ α) : List (DeclaredProperty τ α) :=
  d.fields.zipIdx.filterMap fun (field, cell) => field.spec.map fun spec => { cell, field, spec }

/-- The fields that are no properties, with their positions. -/
def others (d : BeanDeclaration τ φ α) : List (Nat × DeclaredField τ α) :=
  d.fields.zipIdx.filterMap fun (field, cell) =>
    if field.spec.isNone then some (cell, field) else none

end BeanDeclaration

end Beans
