import Beans.Text.Quoted
/-!
# Debug text of compound things

The shapes that debug text is built from: records with named parts, tuples, lists, sets and maps. The
parts are given as texts.
-/

set_option autoImplicit false

namespace Beans.Text

def commas (parts : List String) : String :=
  ", ".intercalate parts

/-- A record with named parts. Without parts only its name is left. -/
def debugRecord (name : String) (parts : List (String × String)) : String :=
  if parts.isEmpty then name
  else name ++ " \x7b " ++ commas (parts.map fun p => p.1 ++ ": " ++ p.2) ++ " \x7d"

/-- A record that says that some of its parts are left out. -/
def debugOpenRecord (name : String) (parts : List (String × String)) : String :=
  name ++ " \x7b " ++ commas (parts.map (fun p => p.1 ++ ": " ++ p.2) ++ [".."]) ++ " \x7d"

def debugTuple (name : String) (parts : List String) : String :=
  name ++ "(" ++ commas parts ++ ")"

def debugList (parts : List String) : String :=
  "[" ++ commas parts ++ "]"

def debugSet (parts : List String) : String :=
  "\x7b" ++ commas parts ++ "\x7d"

def debugMap (parts : List (String × String)) : String :=
  debugSet (parts.map fun p => p.1 ++ ": " ++ p.2)

def debugOption : Option String → String
  | none => "None"
  | some part => debugTuple "Some" [part]

def debugBool (b : Bool) : String :=
  if b then "true" else "false"

end Beans.Text
