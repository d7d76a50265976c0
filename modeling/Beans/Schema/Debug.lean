import Beans.Schema.Basic
/-!
# Debug text of schemas
-/

set_option autoImplicit false

namespace Beans

def FieldStyle.name : FieldStyle → String
  | field => "Field"
  | optional => "Optional"
  | accessor => "Accessor"

def Field.debug (f : Field) : String :=
  Text.debugOpenRecord "FieldDecl"
    [("name", Text.debugString f.name), ("type", f.type.path),
     ("style", Text.debugOption (f.style.map FieldStyle.name)),
     ("nullable", Text.debugBool f.isNullable)]

def Method.debug (m : Method) : String :=
  Text.debugOpenRecord "MethodDecl"
    [("name", Text.debugString m.name),
     ("derived", Text.debugOption (m.derived.map Text.debugString))]

def Constructor.debug (c : Constructor) : String :=
  Text.debugList (c.params.map Ty.path)

def GeneratedAccess.debug (g : GeneratedAccess) : String :=
  Text.debugRecord "GeneratedAccessor"
    [("name", Text.debugString g.name), ("writable", Text.debugBool g.write.isSome)]

def Schema.debug (s : Schema) : String :=
  Text.debugOpenRecord "BeanSchema"
    [("type", s.type.path), ("mutable", Text.debugBool s.isMutable),
     ("fields", Text.debugList (s.fields.map Field.debug)),
     ("methods", Text.debugList (s.methods.map Method.debug)),
     ("constructors", Text.debugList (s.constructors.map Constructor.debug))]

end Beans
