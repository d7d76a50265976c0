import Beans.Text.Debug
import Beans.Ty.Basic
/-!
# Names of types

Each type has a path, which carries the modules of all its parts, a name without modules, the bare
identifier, and the module it lives in. Names are read back by `Ty.ofName?`, given the nominal types
in scope.
-/

set_option autoImplicit false

namespace Beans

/-! ### Path segments -/

def splitPath (path : String) : Option String × String :=
  go [] path.toList.reverse
where
  /-- Walks from the end; `last` holds what was passed. -/
  go (last : List Char) : List Char → Option String × String
    | ':' :: ':' :: rest => (some (String.ofList rest.reverse), String.ofList last)
    | c :: rest => go (c :: last) rest
    | [] => (none, String.ofList last)

/-- The part of a path behind its last `::`. -/
def lastSegment (path : String) : String :=
  (splitPath path).2

def moduleOf? (path : String) : Option String :=
  (splitPath path).1

/-! ### Names -/

def Scalar.name : Scalar → String
  | bool => "bool"
  | char => "char"
  | int k => k.name
  | float .single => "f32"
  | float .double => "f64"
  | string => "String"

def Scalar.all : List Scalar :=
  [bool, char] ++ IntKind.all.map int ++ [float .single, float .double, string]

def Scalar.home? : Scalar → Option String
  | string => some "alloc::string"
  | _ => none

def LeafType.name (l : LeafType) : String :=
  lastSegment l.path

def BeanType.path (b : BeanType) : String :=
  b.home ++ "::" ++ b.name

def Storage.setName : Storage → String
  | sorted => "BTreeSet"
  | hashed => "HashSet"

def Storage.setHome : Storage → String
  | sorted => "alloc::collections::btree_set"
  | hashed => "std::collections::hash::set"

def Storage.mapName : Storage → String
  | sorted => "BTreeMap"
  | hashed => "HashMap"

def Storage.mapHome : Storage → String
  | sorted => "alloc::collections::btree_map"
  | hashed => "std::collections::hash::map"

def Ty.Container.name : Ty.Container → String
  | optional => "Optional"
  | list => "List"
  | set => "Set"
  | map => "Map"

namespace Ty

def home? : Ty → Option String
  | scalar s => s.home?
  | leaf l => moduleOf? l.path
  | bean b => some b.home
  | option _ => some "core::option"
  | list _ => some "alloc::vec"
  | set s _ => some s.setHome
  | map s _ _ => some s.mapHome

def ident : Ty → String
  | scalar s => s.name
  | leaf l => l.name
  | bean b => b.name
  | option _ => "Option"
  | list _ => "Vec"
  | set s _ => s.setName
  | map s _ _ => s.mapName

def applied (head : String) (arguments : List String) : String :=
  head ++ "<" ++ Text.commas arguments ++ ">"

/-- The name of a type, without modules. -/
def name : Ty → String
  | scalar s => s.name
  | leaf l => l.name
  | bean b => b.name
  | option t => applied "Option" [t.name]
  | list t => applied "Vec" [t.name]
  | set s t => applied s.setName [t.name]
  | map s k v => applied s.mapName [k.name, v.name]

/-- The full name of a type, in which each part has its module. -/
def path : Ty → String
  | scalar .string => "alloc::string::String"
  | scalar s => s.name
  | leaf l => l.path
  | bean b => b.path
  | option t => applied "core::option::Option" [t.path]
  | list t => applied "alloc::vec::Vec" [t.path]
  | set s t => applied (s.setHome ++ "::" ++ s.setName) [t.path]
  | map s k v => applied (s.mapHome ++ "::" ++ s.mapName) [k.path, v.path]

def debugNames (t : Ty) : String :=
  Text.debugRecord "TypePathTable"
    [("type_path", Text.debugString t.path), ("type_name", Text.debugString t.name),
     ("type_ident", Text.debugString t.ident),
     ("module_path", Text.debugOption (t.home?.map Text.debugString))]

/-! ### Reading names -/

def ofApplied? (head : String) (arguments : List Ty) : Option Ty :=
  match head, arguments with
  | "Option", [t] => some (option t)
  | "Vec", [t] => some (list t)
  | "BTreeSet", [t] => some (set .sorted t)
  | "HashSet", [t] => some (set .hashed t)
  | "BTreeMap", [k, v] => some (map .sorted k v)
  | "HashMap", [k, v] => some (map .hashed k v)
  | _, _ => none

def isNameEnd (c : Char) : Bool :=
  c == '<' || c == '>' || c == ','

mutual

/-- Reads one type, and returns the text behind it. A step of the recursion consumes a character, so
as much fuel as there are characters is enough. -/
def readType (nominal : String → Option Ty) : Nat → List Char → Option (Ty × List Char)
  | 0, _ => none
  | fuel + 1, text =>
    let head := String.ofList (text.takeWhile (!isNameEnd ·))
    match text.dropWhile (!isNameEnd ·) with
    | '<' :: rest => do
      let (arguments, rest) ← readArguments nominal fuel rest
      let t ← ofApplied? head arguments
      return (t, rest)
    | rest => (nominal head).map fun t => (t, rest)

def readArguments (nominal : String → Option Ty) : Nat → List Char → Option (List Ty × List Char)
  | 0, _ => none
  | fuel + 1, text => do
    let (t, rest) ← readType nominal fuel text
    match rest with
    | '>' :: rest => return ([t], rest)
    | ',' :: rest =>
      let (arguments, rest) ← readArguments nominal fuel rest
      return (t :: arguments, rest)
    | _ => none

end

def scalarOfName? (name : String) : Option Ty :=
  (Scalar.all.find? (·.name == name)).map scalar

/-- The type of a name, in which blanks mean nothing. The declared types are looked up in `declared`. -/
def ofName? (declared : String → Option Ty) (name : String) : Option Ty :=
  let text := name.toList.filter (· != ' ')
  match readType (fun n => scalarOfName? n <|> declared n) (2 * text.length + 1) text with
  | some (t, []) => some t
  | _ => none

end Ty

end Beans
