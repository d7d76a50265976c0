import Beans.Declaration.Argument
import Beans.Declaration.Item
/-!
# Reading declarations

A declaration is read from an item in a fixed order, and the first thing that is wrong is reported: the
shape of the item, its parameters, the attributes of the bean, the fields one by one, and last the names
of derived properties. Arguments count in the same way in whichever attribute of their name they stand.
-/

set_option autoImplicit false

namespace Beans.Declaration

inductive DeclarationError where
  | notARecord
  | generic
  /-- Something is not well formed. -/
  | token (e : TokenError)
  | unknownBeanArgument
  | unknownPropertyArgument
  | unknownAccessor
  | unknownGetStyle
  | unknownCheck
  | setTwice (name : String)
  | needsOption
  /-- A derived property has the name of a field property. -/
  | sharedName
deriving DecidableEq, Repr

def DeclarationError.message : DeclarationError → String
  | notARecord => "`Bean` can only be derived for structs with named fields"
  | generic => "`Bean` cannot be derived for generic types"
  | token e => e.message
  | unknownBeanArgument =>
    "unknown `bean` argument, expected `accessor`, `mutable`, `auto_register`, "
      ++ "`schema`, `derived` or `@annotation`"
  | unknownPropertyArgument =>
    "unknown `property` argument, expected `get`, `validate` or `@annotation`"
  | unknownAccessor => "expected `reflective`, `handle` or `generated`"
  | unknownGetStyle => "expected `smart`, `field`, `optional` or `wrapped`"
  | unknownCheck => "expected `not_null` or `not_empty`"
  | setTwice name => s!"`{name}` is set twice"
  | needsOption => "this get style needs an `Option` field"
  | sharedName => "a derived property cannot share the name of a field property"

abbrev Reads (α : Type) := Except DeclarationError α

def tokensOf (text : String) : Reads (List Token) :=
  match Token.ofText? text with
  | some tokens => .ok tokens
  | none => .error (.token .unreadable)

/-! ### Attributes -/

def setOnce {α : Type} (name : String) (old : Option α) (new : α) : Reads (Option α) :=
  if old.isSome then .error (.setTwice name) else .ok (some new)

def setFlag (name : String) (old : Bool) : Reads Bool :=
  if old then .error (.setTwice name) else .ok true

/-- Takes arguments over one by one, and then reports why there are no more. -/
def acceptAll {σ α : Type} (accept : σ → α → Reads σ) (o : σ) (r : ReadArguments α) : Reads σ := do
  let o ← r.arguments.foldlM accept o
  match r.error with
  | some e => throw (.token e)
  | none => return o

/-- Takes over the arguments of all attributes of a name, in order. -/
def acceptAttributes {σ α : Type} (argument : TokenReader α) (accept : σ → α → Reads σ) (name : String)
    (o : σ) (attributes : List Attribute) : Reads σ :=
  (attributes.filter (·.isNamed name)).foldlM (fun o a => do
    acceptAll accept o (.ofTokens argument (← tokensOf a.written))) o

/-! ### Attributes of beans -/

structure BeanOptions where
  kind : Option AccessorKind := none
  isMutable : Bool := false
  isAutoRegistered : Bool := false
  schema : Option String := none
  derived : List (DerivedDeclaration String String) := []
  annotations : List String := []
deriving DecidableEq, Repr

namespace BeanOptions

def accept (o : BeanOptions) : BeanArgument → Reads BeanOptions
  | .accessor name => do
    let some kind := AccessorKind.ofName? name | throw .unknownAccessor
    return { o with kind := ← setOnce "accessor" o.kind kind }
  | .isMutable => return { o with isMutable := ← setFlag "mutable" o.isMutable }
  | .isAutoRegistered =>
    return { o with isAutoRegistered := ← setFlag "auto_register" o.isAutoRegistered }
  | .schema path => return { o with schema := ← setOnce "schema" o.schema path }
  | .derived d => return { o with derived := o.derived ++ [d] }
  | .attached e => return { o with annotations := o.annotations ++ [e] }
  | .unknown => throw .unknownBeanArgument

def read (attributes : List Attribute) : Reads BeanOptions :=
  acceptAttributes BeanArgument.reader accept "bean" {} attributes

/-- A bean with a schema of its own has no generated accessors. -/
def kindOrDefault (o : BeanOptions) : AccessorKind :=
  o.kind.getD (if o.schema.isSome then .handle else default)

end BeanOptions

/-! ### Attributes of fields -/

structure PropertyOptions where
  getStyle : Option GetStyle := none
  check : Option Check := none
  annotations : List String := []
deriving DecidableEq, Repr

namespace PropertyOptions

def accept (o : PropertyOptions) : PropertyArgument → Reads PropertyOptions
  | .get name => do
    let some style := GetStyle.ofName? name | throw .unknownGetStyle
    return { o with getStyle := ← setOnce "get" o.getStyle style }
  | .validate name => do
    let some check := Check.ofName? name | throw .unknownCheck
    return { o with check := ← setOnce "validate" o.check check }
  | .attached e => return { o with annotations := o.annotations ++ [e] }
  | .unknown => throw .unknownPropertyArgument

/-- Reads the attributes of a field. A field without an attribute of the name is no property. -/
def read (attributes : List Attribute) : Reads (Option PropertyOptions) :=
  if attributes.any (·.isNamed "property") then
    some <$> acceptAttributes PropertyArgument.reader accept "property" {} attributes
  else .ok none

def spec (o : PropertyOptions) : PropertySpec String where
  getStyle := o.getStyle.getD .smart
  check := o.check
  annotations := o.annotations

end PropertyOptions

/-! ### Items -/

/-- The text of the type `T` of a type that is written `Option<T>`, behind any path. -/
def TypeForm.optionContent? : TypeForm → Option String
  | path p =>
    if p.isQualified then none
    else match p.segments.getLast? with
    | some ⟨"Option", some [content]⟩ => content
    | _ => none
  | bounds _ | other => none

/-- The type that a text holds, and nothing else, without blanks. -/
def typeOf (text : String) : Reads (TypeForm × String) := do
  ((grammar.type true).captured.whole (← tokensOf text)).mapError .token

namespace ItemField

def read (f : ItemField) : Reads (DeclaredField String String) := do
  let (form, text) ← typeOf f.type
  let field (type : String) (isNullable : Bool) (spec : Option (PropertySpec String)) :
      DeclaredField String String :=
    { ident := f.name, type, isBool := type = "bool", isNullable, spec }
  match ← PropertyOptions.read f.attributes with
  | none => return field text false none
  | some o =>
    match form.optionContent? with
    | some content => return field content true (some o.spec)
    | none =>
      if o.spec.getStyle.needsOption then throw .needsOption
      return field text false (some o.spec)

end ItemField

abbrev TextDeclaration := BeanDeclaration String String String

namespace Item

def read (item : Item) : Reads TextDeclaration := do
  if item.shape ≠ .record then throw .notARecord
  if item.generics.any fun text => (Token.ofText? text).any (!·.isEmpty) then throw .generic
  let o ← BeanOptions.read item.attributes
  let d : TextDeclaration := {
    name := item.name
    kind := o.kindOrDefault
    isMutable := o.isMutable
    isAutoRegistered := o.isAutoRegistered
    schema := o.schema
    annotations := o.annotations
    derived := o.derived
    fields := ← item.fields.mapM ItemField.read }
  if d.derived.any fun derived => d.properties.any (·.name == derived.name) then throw .sharedName
  return d

end Item

end Beans.Declaration
