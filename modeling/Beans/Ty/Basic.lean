import Beans.Number.FloatFormat
import Beans.Number.IntKind
/-!
# Types of values

A type is a scalar, a leaf type declared by the program, a bean type, or one of the containers over
other types. Leaf and bean types are nominal: their declaration is part of them.

Only one rule relates different types: a value of type `T` can stand where an `Option` of `T` is
expected, at any depth (`Ty.isAssignableFrom`).
-/

set_option autoImplicit false

namespace Beans

inductive Scalar where
  | bool
  | char
  | int (kind : IntKind)
  | float (format : FloatFormat)
  | string
deriving DecidableEq, Repr

/-- What a leaf type holds: one scalar, one of a list of names, or whatever else it is made of. -/
inductive LeafShape where
  | wrapper (content : Scalar)
  | choice (names : List String)
  | other
deriving DecidableEq, Repr

/-- A type without parts that a program declares. -/
structure LeafType where
  path : String
  shape : LeafShape
deriving DecidableEq, Repr

structure RecordField where
  name : String
  /-- Whether the field takes part in the hash of the record. -/
  isHashed : Bool
deriving DecidableEq, Repr

inductive Layout where
  /-- One value for each of the fields. -/
  | record (fields : List RecordField)
  /-- Any number of cells, each of which may be empty. -/
  | row
deriving DecidableEq, Repr

structure BeanType where
  home : String
  name : String
  layout : Layout
deriving DecidableEq, Repr

/-- How a set or a map finds its keys. -/
inductive Storage where
  | sorted
  | hashed
deriving DecidableEq, Repr

inductive Ty where
  | scalar (s : Scalar)
  | leaf (l : LeafType)
  | bean (b : BeanType)
  | option (item : Ty)
  | list (item : Ty)
  | set (storage : Storage) (item : Ty)
  | map (storage : Storage) (key value : Ty)
deriving DecidableEq, Repr

namespace Ty

inductive Container where
  | optional
  | list
  | set
  | map
deriving DecidableEq, Repr

abbrev bool : Ty := .scalar .bool
abbrev char : Ty := .scalar .char
abbrev string : Ty := .scalar .string
abbrev int (k : IntKind) : Ty := .scalar (.int k)
abbrev float (f : FloatFormat) : Ty := .scalar (.float f)

def container? : Ty → Option Container
  | option _ => some .optional
  | list _ => some .list
  | set _ _ => some .set
  | map _ _ _ => some .map
  | scalar _ | leaf _ | bean _ => none

/-- The types a container is built over, the key of a map first. -/
def arguments : Ty → List Ty
  | option t | list t | set _ t => [t]
  | map _ k v => [k, v]
  | scalar _ | leaf _ | bean _ => []

def isOption : Ty → Bool
  | option _ => true
  | _ => false

/-- The type below one `Option` layer, or the type itself. -/
def unwrapped : Ty → Ty
  | option t => t
  | t => t

/-- Whether a value of type `source` can stand where this type is expected: the two are the same, or
this type is an `Option` over one where it can. -/
def isAssignableFrom (target source : Ty) : Bool :=
  target = source || match target with
    | option item => item.isAssignableFrom source
    | _ => false

theorem isAssignableFrom_self (t : Ty) : t.isAssignableFrom t = true := by
  cases t <;> simp [isAssignableFrom]

theorem option_isAssignableFrom (t s : Ty) :
    (option t).isAssignableFrom s = true ↔ option t = s ∨ t.isAssignableFrom s = true := by
  rw [isAssignableFrom]
  simp

/-! ### Element types -/

def element? : Ty → Option Ty
  | list t | set _ t => some t
  | _ => none

def key? : Ty → Option Ty
  | map _ k _ => some k
  | _ => none

def mapped? : Ty → Option Ty
  | map _ _ v => some v
  | _ => none

def elementArguments (t : Ty) : List Ty :=
  (t.element?.map arguments).getD []

def mappedArguments (t : Ty) : List Ty :=
  (t.mapped?.map arguments).getD []

end Ty

end Beans
