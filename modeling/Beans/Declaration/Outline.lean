import Beans.Declaration.Basic
/-!
# Members of declared beans

The outline of a declaration lists the members that its schema has, and what each of them does with the
fields, which are named by their positions. A property is declared three times over: as a field, by a
getter and a setter if it has them, and by a generated accessor.
-/

set_option autoImplicit false

namespace Beans

inductive MemberRead (φ : Type) where
  /-- What the field holds. -/
  | whole (cell : Nat)
  /-- What the `Option` holds that the field is. -/
  | content (cell : Nat)
  | compute (f : φ)

inductive MemberWrite (τ : Type) where
  /-- A value of the type, which is not null, into the field. -/
  | value (cell : Nat) (type : τ) (name : String)
  /-- A value of the type, or null, into the field, which is an `Option`. -/
  | content (cell : Nat) (type : τ)

/-- What a method returns: a value of a type, or an `Option` of it. -/
structure Returned (τ : Type) where
  type : τ
  isOption : Bool := false

def Returned.text (r : Returned String) : String :=
  if r.isOption then s!"::core::option::Option<{r.type}>" else r.type

structure OutlineField (τ α : Type) where
  name : String
  type : τ
  style : FieldStyle
  isNullable : Bool
  read : MemberRead Empty
  write : Option (MemberWrite τ)
  annotations : List α

inductive OutlineMethod (τ φ : Type) where
  | getter (name : String) (returns : Returned τ) (read : MemberRead φ) (derived : Option String)
  | setter (name : String) (param : τ) (write : MemberWrite τ)

structure OutlineAccess (τ φ : Type) where
  name : String
  read : MemberRead φ
  write : Option (MemberWrite τ)

/-- Where a constructor takes the value of a property from. -/
inductive ArgumentUse (τ : Type) where
  /-- An argument that is not null. -/
  | required (type : τ) (index : Nat)
  /-- An argument that may be null, as an `Option`. -/
  | nullable (type : τ) (index : Nat)
  /-- An argument that passes a check, as an `Option` if the field is one. -/
  | checked (type : τ) (index : Nat) (check : Check) (name : String) (isNullable : Bool)

inductive OutlineConstructor (τ : Type) where
  /-- Gives all fields their default values. -/
  | defaults
  /-- Takes the values of some fields from the arguments, and gives the others their defaults. -/
  | arguments (params : List τ) (uses : List (Nat × ArgumentUse τ))

structure Outline (τ φ α : Type) where
  isMutable : Bool
  annotations : List α
  fields : List (OutlineField τ α)
  methods : List (OutlineMethod τ φ)
  constructor : OutlineConstructor τ
  generated : List (OutlineAccess τ φ)

variable {τ φ α : Type}

/-- A read that computes nothing may stand among those that do. -/
def MemberRead.lift : MemberRead Empty → MemberRead φ
  | whole cell => .whole cell
  | content cell => .content cell

namespace DeclaredProperty

variable (p : DeclaredProperty τ α)

def fieldStyle : FieldStyle :=
  match p.spec.getStyle with
  | .field => .field
  | .optional => .optional
  | .smart | .wrapped => .accessor

/-- The read of the field: its content if it may be null. -/
def fieldRead : MemberRead Empty :=
  if p.isNullable then .content p.cell else .whole p.cell

/-- The read of the property, which is that of the field, except that a wrapped property shows the whole
`Option`. -/
def propertyRead : MemberRead Empty :=
  if p.spec.getStyle = .wrapped then .whole p.cell else p.fieldRead

def fieldWrite : MemberWrite τ :=
  if p.isNullable then .content p.cell p.type else .value p.cell p.type p.name

def writeIf (isMutable : Bool) : Option (MemberWrite τ) :=
  if isMutable then some p.fieldWrite else none

def outlineField (isMutable : Bool) : OutlineField τ α where
  name := p.name
  type := p.type
  style := p.fieldStyle
  isNullable := p.isNullable
  read := p.fieldRead
  write := p.writeIf isMutable
  annotations := p.spec.annotations

def returned : Returned τ where
  type := p.type
  isOption := p.spec.getStyle = .wrapped

/-- The getter of a property that has one, and its setter if the bean is mutable. -/
def outlineMethods (isMutable : Bool) : List (OutlineMethod τ φ) :=
  if p.spec.getStyle.hasGetter then
    .getter p.getterName p.returned p.propertyRead.lift none
      :: ((p.writeIf isMutable).map (.setter p.setterName p.type ·)).toList
  else []

def outlineAccess (isMutable : Bool) : OutlineAccess τ φ where
  name := p.name
  read := p.propertyRead.lift
  write := p.writeIf isMutable

def argumentUse (index : Nat) : ArgumentUse τ :=
  match p.spec.check with
  | some check => .checked p.type index check p.name p.isNullable
  | none => if p.isNullable then .nullable p.type index else .required p.type index

end DeclaredProperty

namespace DerivedDeclaration

variable (d : DerivedDeclaration τ φ)

def outlineMethod : OutlineMethod τ φ :=
  .getter ("get_" ++ d.name) { type := d.type } (.compute d.compute) (some d.name)

def outlineAccess : OutlineAccess τ φ where
  name := d.name
  read := .compute d.compute
  write := none

end DerivedDeclaration

namespace BeanDeclaration

variable (d : BeanDeclaration τ φ α)

/-- The constructor of a mutable bean takes nothing, that of another one all its properties. -/
def outlineConstructor : OutlineConstructor τ :=
  if d.isMutable then .defaults
  else .arguments (d.properties.map (·.type)) <|
    d.properties.zipIdx.map fun (p, index) => (p.cell, p.argumentUse index)

def outline : Outline τ φ α where
  isMutable := d.isMutable
  annotations := d.annotations
  fields := d.properties.map (·.outlineField d.isMutable)
  methods := d.properties.flatMap (·.outlineMethods d.isMutable) ++ d.derived.map (·.outlineMethod)
  constructor := d.outlineConstructor
  generated :=
    d.properties.map (·.outlineAccess d.isMutable) ++ d.derived.map (·.outlineAccess)

end BeanDeclaration

end Beans
