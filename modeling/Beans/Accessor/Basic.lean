import Beans.Schema.Debug
/-!
# Bindings of properties

A binding names the members through which a property is read and written. Names are looked up in the
schema: fields among its own, methods on the nearest schema that declares one of the name.
-/

set_option autoImplicit false

namespace Beans

/-- The strategies for reaching the members of a property. -/
inductive AccessorKind where
  /-- Members are looked up at each call. -/
  | reflective
  /-- Members are looked up once. -/
  | handle
  /-- The accessor generated for the property is used. -/
  | generated
deriving DecidableEq, Repr

instance : Inhabited AccessorKind := ⟨.generated⟩

def AccessorKind.debug : AccessorKind → String
  | reflective => "Reflective"
  | handle => "Handle"
  | generated => "Generated"

inductive ReadMember where
  | field (name : String)
  | getter (name : String)
deriving DecidableEq, Repr

inductive WriteMember where
  | field (name : String)
  | setter (name : String)
deriving DecidableEq, Repr

namespace ReadMember

/-- The function behind the name, if there is a member of the name and it can read. -/
def find? (s : Schema) : ReadMember → Option Reader
  | field name => (s.field? name).bind (·.reader)
  | getter name => (s.findMethod? name).bind (·.reader?)

def debug : ReadMember → String
  | field name => Text.debugTuple "Field" [Text.debugString name]
  | getter name => Text.debugTuple "Getter" [Text.debugString name]

end ReadMember

namespace WriteMember

def name : WriteMember → String
  | field name | setter name => name

/-- The function behind the name, if there is a member of the name and it can write. -/
def find? (s : Schema) : WriteMember → Option Writer
  | field name => (s.field? name).bind (·.writer)
  | setter name => (s.findMethod? name).bind (·.writer?)

def debug : WriteMember → String
  | field name => Text.debugTuple "Field" [Text.debugString name]
  | setter name => Text.debugTuple "Setter" [Text.debugString name]

end WriteMember

structure Binding where
  property : String
  read : ReadMember
  write : Option WriteMember
deriving DecidableEq, Repr

def Binding.debug (b : Binding) : String :=
  Text.debugRecord "MemberBinding"
    [("property", Text.debugString b.property), ("read", b.read.debug),
     ("write", Text.debugOption (b.write.map WriteMember.debug))]

def Reader.invoke (read : Reader) (property : String) (b : Bean) :
    Except BeanError (Option Value) :=
  (read b).mapError (.invocationFailed property)

def Writer.invoke (write : Writer) (property : String) (v : Option Value) : BeanM BeanError Unit :=
  (write v).adapt (.invocationFailed property)

end Beans
