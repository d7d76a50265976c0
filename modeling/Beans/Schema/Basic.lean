import Beans.Annotations
import Beans.Schema.Arguments
/-!
# Schemas

The schema of a bean type declares its members: fields, methods, constructors, and the accessors that
were generated with it. A schema may extend others. Members are functions, and any of them may be
missing, repeated or inherited; what a schema amounts to is decided where a descriptor is made from it.
-/

set_option autoImplicit false

namespace Beans

/-- An operation that changes a bean in place. A failing one may have changed it, too. -/
abbrev BeanM (ε : Type) := ExceptT ε (StateM Bean)

abbrev Reader := Bean → Except MemberError (Option Value)

abbrev Writer := Option Value → BeanM MemberError Unit

/-- How the property of a field is read and written: through the field, or through methods. -/
inductive FieldStyle where
  | field
  | optional
  | accessor
deriving DecidableEq, Repr

structure Field where
  name : String
  type : Ty
  /-- A field without a style is no property. -/
  style : Option FieldStyle := none
  isNullable : Bool := false
  isStatic : Bool := false
  isInherited : Bool := false
  reader : Option Reader := none
  writer : Option Writer := none
  annotations : Annotations := ∅

inductive MethodBody where
  | getter (returns : Ty) (read : Reader)
  | setter (param : Ty) (write : Writer)

structure Method where
  name : String
  body : MethodBody
  /-- The property that a getter computes without a field. -/
  derived : Option String := none
  annotations : Annotations := ∅

namespace Method

def returns? (m : Method) : Option Ty :=
  match m.body with
  | .getter t _ => some t
  | .setter _ _ => none

def param? (m : Method) : Option Ty :=
  match m.body with
  | .getter _ _ => none
  | .setter t _ => some t

def reader? (m : Method) : Option Reader :=
  match m.body with
  | .getter _ read => some read
  | .setter _ _ => none

def writer? (m : Method) : Option Writer :=
  match m.body with
  | .getter _ _ => none
  | .setter _ write => some write

end Method

structure Constructor where
  params : List Ty
  invoke : Arguments → Except MemberError Bean

namespace Constructor

def arity (c : Constructor) : Nat :=
  c.params.length

def MatchesExactly (c : Constructor) (types : List Ty) : Prop :=
  c.params = types

instance (c : Constructor) (types : List Ty) : Decidable (c.MatchesExactly types) :=
  inferInstanceAs (Decidable (c.params = types))

/-- Whether there are as many parameters as types, and each can take a value of its type. -/
def matchesLeniently (c : Constructor) (types : List Ty) : Bool :=
  c.params.length == types.length
    && (c.params.zip types).all fun p => p.1.isAssignableFrom p.2

end Constructor

structure GeneratedAccess where
  name : String
  read : Reader
  write : Option Writer := none

/-- A schema that is extended, as far as its extensions see it. -/
structure Ancestor where
  type : BeanType
  methods : List Method

structure Schema where
  type : BeanType
  isMutable : Bool := false
  /-- The schemas that are extended, the nearest first. -/
  ancestors : List Ancestor := []
  fields : List Field := []
  methods : List Method := []
  constructors : List Constructor := []
  generated : List GeneratedAccess := []
  annotations : Annotations := ∅

namespace Schema

def field? (s : Schema) (name : String) : Option Field :=
  s.fields.find? (·.name == name)

def method? (s : Schema) (name : String) : Option Method :=
  s.methods.find? (·.name == name)

/-- The first method of a name on the nearest schema that has one. -/
def findMethod? (s : Schema) (name : String) : Option Method :=
  (s.methods :: s.ancestors.map (·.methods)).findSome? (·.find? (·.name == name))

def generated? (s : Schema) (name : String) : Option GeneratedAccess :=
  s.generated.find? (·.name == name)

/-- The schema as its extensions see it, followed by those that it extends. -/
def asAncestors (s : Schema) : List Ancestor :=
  ⟨s.type, s.methods⟩ :: s.ancestors

end Schema

/-! ### Building blocks of members -/

namespace Bean

def instanceOf (b : Bean) (type : BeanType) : Except MemberError Bean :=
  if b.type = type then .ok b else .error (.wrongInstance type b.type)

end Bean

/-- The value to store where one of the type is held and null is not allowed. -/
def assigned (type : Ty) (name : String) : Option Value → Except MemberError Value
  | none => .error (.nullValue name)
  | some v => if v.type = type then .ok v else .error (.wrongValue type v.type)

/-- The value, or none, to store where one of the type may be held. -/
def assignedOpt (type : Ty) : Option Value → Except MemberError (Option Value)
  | none => .ok none
  | some v => if v.type = type then .ok (some v) else .error (.wrongValue type v.type)

end Beans
