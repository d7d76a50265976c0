import Beans.Declaration.Outline
import Beans.Declaration.Reading
/-!
# Schemas of declared beans

In a scope that gives texts their meaning, a declaration has a bean type, with one cell for each of its
fields, and a schema, whose members do what the outline says.
-/

set_option autoImplicit false

namespace Beans

namespace Value

/-- What an `Option` holds. Another value stands for itself. -/
def content? : Value → Option Value
  | option _ content => content
  | v => some v

end Value

/-! ### Members -/

abbrev Compute := Bean → Value

def MemberRead.reader (type : BeanType) (r : MemberRead Compute) : Reader := fun b => do
  let b ← b.instanceOf type
  match r with
  | whole cell => return b.cell? cell
  | content cell => return (b.cell? cell).bind Value.content?
  | compute f => return some (f b)

def MemberWrite.writer (type : BeanType) (w : MemberWrite Ty) : Writer := fun v => do
  let b ← ofExcept ((← getThe Bean).instanceOf type)
  match w with
  | value cell t name =>
    let v ← ofExcept (assigned t name v)
    set (b.setCell cell (some v))
  | content cell t =>
    let v ← ofExcept (assignedOpt t v)
    set (b.setCell cell (some (.option t v)))

def Returned.ty (r : Returned Ty) : Ty :=
  if r.isOption then .option r.type else r.type

def ArgumentUse.take : ArgumentUse Ty → TakeM Value
  | required t index => Arguments.take t index
  | nullable t index => return .option t (← Arguments.take? t index)
  | checked t index check name isNullable => do
    let v ← ofExcept (check.run name (← Arguments.take? t index))
    return if isNullable then .option t (some v) else v

namespace OutlineConstructor

def fill (b : Bean) (uses : List (Nat × ArgumentUse Ty)) : TakeM Bean :=
  uses.foldlM (fun b (cell, use) => return b.setCell cell (some (← use.take))) b

/-- The constructor, given a bean of which nothing is said. -/
def toConstructor (initial : Bean) : OutlineConstructor Ty → Constructor
  | defaults => { params := [], invoke := fun _ => .ok initial }
  | arguments params uses =>
    { params, invoke := fun a => ((fill initial uses).run a).1 }

end OutlineConstructor

def OutlineField.toField (type : BeanType) (f : OutlineField Ty Value) : Field where
  name := f.name
  type := f.type
  style := some f.style
  isNullable := f.isNullable
  reader := some (f.read.lift.reader type)
  writer := f.write.map (·.writer type)
  annotations := .ofList f.annotations

def OutlineMethod.toMethod (type : BeanType) : OutlineMethod Ty Compute → Method
  | getter name returns read derived =>
    { name, body := .getter returns.ty (read.reader type), derived }
  | setter name param write => { name, body := .setter param (write.writer type) }

def OutlineAccess.toAccess (type : BeanType) (a : OutlineAccess Ty Compute) : GeneratedAccess where
  name := a.name
  read := a.read.reader type
  write := a.write.map (·.writer type)

def Outline.schema (o : Outline Ty Compute Value) (initial : Bean) : Schema where
  type := initial.type
  isMutable := o.isMutable
  fields := o.fields.map (·.toField initial.type)
  methods := o.methods.map (·.toMethod initial.type)
  constructors := [o.constructor.toConstructor initial]
  generated := o.generated.map (·.toAccess initial.type)
  annotations := .ofList o.annotations

/-! ### Declared beans -/

/-- A declaration whose texts have a meaning. -/
abbrev ResolvedDeclaration := BeanDeclaration Ty Compute Value

def DeclaredField.fieldType (f : DeclaredField Ty Value) : Ty :=
  if f.isNullable then .option f.type else f.type

namespace BeanDeclaration

def beanType {τ φ α : Type} (d : BeanDeclaration τ φ α) (home : String) : BeanType where
  home
  name := d.name
  layout := .record (d.fields.map fun f => { name := f.name, isHashed := f.spec.isSome })

/-- The schema of the declared bean, given the cells of one of which nothing is said. -/
def schemaWith (d : ResolvedDeclaration) (home : String) (defaults : List (Option Value)) : Schema :=
  d.outline.schema ⟨d.beanType home, defaults⟩

end BeanDeclaration

/-! ### Scopes -/

/-- The meaning of texts. -/
structure Scope where
  type? : String → Option Ty
  function? : String → Option Compute
  annotation? : String → Option Value

namespace Scope

def resolveSpec (s : Scope) (spec : PropertySpec String) : Option (PropertySpec Value) := do
  return { spec with annotations := ← spec.annotations.mapM s.annotation? }

def resolveField (s : Scope) (f : DeclaredField String String) :
    Option (DeclaredField Ty Value) := do
  return { f with
    type := ← s.type? f.type
    spec := ← f.spec.mapM s.resolveSpec }

def resolveDerived (s : Scope) (d : DerivedDeclaration String String) :
    Option (DerivedDeclaration Ty Compute) := do
  return { d with
    type := ← s.type? d.type
    compute := ← s.function? d.compute }

def resolve (s : Scope) (d : Declaration.TextDeclaration) : Option ResolvedDeclaration := do
  return { d with
    annotations := ← d.annotations.mapM s.annotation?
    derived := ← d.derived.mapM s.resolveDerived
    fields := ← d.fields.mapM s.resolveField }

end Scope

end Beans
