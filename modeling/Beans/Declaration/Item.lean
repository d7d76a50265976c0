import Beans.Declaration.Token
import Beans.Text.Debug
/-!
# Items as they are written

A declaration is an item with attributes, and fields with attributes. Attributes of several names may
stand on it; the arguments of an attribute are words, perhaps with a text or a path, annotations, and
derived properties. What an attribute says depends on its tokens alone.
-/

set_option autoImplicit false

namespace Beans.Declaration

/-- An argument of an attribute, in texts. -/
inductive Argument where
  /-- A word alone. -/
  | word (name : String)
  /-- A word that is set to a text in quotes. -/
  | text (name value : String)
  /-- A word that is set to a path. -/
  | path (name path : String)
  /-- A value that is attached. -/
  | attached (expression : String)
  | derived (name type compute : String)
deriving DecidableEq, Repr

def Argument.written : Argument → String
  | .word name => name
  | .text name value => name ++ " = " ++ Text.debugString value
  | .path name p => s!"{name} = {p}"
  | .attached expression => "@" ++ expression
  | .derived name type compute => s!"derived({name}: {type} = {compute})"

structure Attribute where
  name : String
  arguments : List Argument := []
  /-- Whether a comma follows the last argument. -/
  endsWithComma : Bool := false
deriving DecidableEq, Repr

namespace Attribute

/-- Whether the attribute is called by a name, which is written as one word. -/
def isNamed (a : Attribute) (name : String) : Bool :=
  match Token.ofText? a.name with
  | some [t] => t.isWord name
  | _ => false

def written (a : Attribute) : String :=
  Text.commas (a.arguments.map (·.written)) ++ if a.endsWithComma then "," else ""

end Attribute

structure ItemField where
  name : String
  type : String
  attributes : List Attribute := []
deriving DecidableEq, Repr

inductive ItemShape where
  /-- Named fields. -/
  | record
  /-- Fields without names. -/
  | tuple
  | unit
  /-- One of several variants. -/
  | variants
  /-- One of several fields in the same place. -/
  | overlay
deriving DecidableEq, Repr

namespace ItemShape

def name : ItemShape → String
  | record => "struct"
  | tuple => "tuple"
  | unit => "unit"
  | variants => "enum"
  | overlay => "union"

def ofName? (name : String) : Option ItemShape :=
  [record, tuple, unit, variants, overlay].find? (·.name = name)

end ItemShape

structure Item where
  name : String
  shape : ItemShape := .record
  generics : List String := []
  attributes : List Attribute := []
  fields : List ItemField := []
deriving DecidableEq, Repr

end Beans.Declaration
