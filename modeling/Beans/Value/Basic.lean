import Beans.Ty.Basic
/-!
# Values

A value carries its type: the containers say which type they are built over, so that an empty one
has a type as well, and `Value.type` reads it off. A value that may be absent altogether is an
`Option Value`; this is not the same as a value of an `Option` type that holds nothing.

`Value.WellTyped` says that the parts of a value have the types it announces.
-/

set_option autoImplicit false

namespace Beans

inductive ScalarValue where
  | bool (b : Bool)
  | char (c : Char)
  | int (kind : IntKind) (n : Int)
  | float (format : FloatFormat) (bits : Nat)
  | string (s : String)
deriving DecidableEq, Repr

def ScalarValue.type : ScalarValue → Scalar
  | bool _ => .bool
  | char _ => .char
  | int k _ => .int k
  | float f _ => .float f
  | string _ => .string

def ScalarValue.InRange : ScalarValue → Prop
  | int k n => k.InRange n
  | float f bits => bits < Nat.pow 2 f.width
  | bool _ | char _ | string _ => True

/-- What a value of a leaf type holds: a scalar, the position of a name, or two such things, as many as
are needed for the fields of the type. -/
inductive LeafContent where
  | wrapper (content : ScalarValue)
  | choice (index : Nat)
  | pair (first second : LeafContent)
deriving DecidableEq, Repr

def LeafShape.Holds : LeafShape → LeafContent → Prop
  | wrapper s, .wrapper v => v.type = s ∧ v.InRange
  | choice names, .choice i => i < names.length
  | other, _ => True
  | _, _ => False

inductive Value where
  | scalar (s : ScalarValue)
  | leaf (type : LeafType) (content : LeafContent)
  | option (item : Ty) (content : Option Value)
  | list (item : Ty) (items : List Value)
  | set (storage : Storage) (item : Ty) (items : List Value)
  | map (storage : Storage) (key value : Ty) (entries : List (Value × Value))
  | bean (type : BeanType) (cells : List (Option Value))

/-- An instance of a bean type. A cell of a record holds the value of the field at its position. -/
structure Bean where
  type : BeanType
  cells : List (Option Value)

namespace Value

abbrev ofBool (b : Bool) : Value := .scalar (.bool b)
abbrev ofInt (k : IntKind) (n : Int) : Value := .scalar (.int k n)
abbrev ofString (s : String) : Value := .scalar (.string s)

def type : Value → Ty
  | scalar s => .scalar s.type
  | leaf l _ => .leaf l
  | option t _ => .option t
  | list t _ => .list t
  | set s t _ => .set s t
  | map s k v _ => .map s k v
  | bean b _ => .bean b

def bean? : Value → Option Bean
  | bean b cells => some ⟨b, cells⟩
  | _ => none

end Value

def Bean.toValue (b : Bean) : Value :=
  .bean b.type b.cells

/-- The value of the cell at a position: absent if the cell is empty or past the end. -/
def Bean.cell? (b : Bean) (i : Nat) : Option Value :=
  b.cells[i]?.join

/-- Puts a value, or none, into the cell at a position. Cells that are missing before it are added
empty. -/
def Bean.setCell (b : Bean) (i : Nat) (v : Option Value) : Bean :=
  { b with cells := (b.cells ++ List.replicate (i + 1 - b.cells.length) none).set i v }

@[simp] theorem Bean.type_setCell (b : Bean) (i : Nat) (v : Option Value) :
    (b.setCell i v).type = b.type := rfl

theorem Bean.cell?_setCell (b : Bean) (i j : Nat) (v : Option Value) :
    (b.setCell i v).cell? j = if i = j then v else b.cell? j := by
  have long : i < (b.cells ++ List.replicate (i + 1 - b.cells.length) none).length := by
    simp only [List.length_append, List.length_replicate]
    omega
  unfold cell? setCell
  by_cases h : i = j
  · subst h
    simp only [List.getElem?_set_self long, Option.join_some, if_true]
  · rw [List.getElem?_set_ne h, if_neg h, List.getElem?_append]
    split
    · rfl
    · rename_i out
      rw [List.getElem?_eq_none (Nat.le_of_not_lt out), List.getElem?_replicate]
      split <;> rfl

namespace Value

/-! ### Well-typed values -/

mutual

/-- The parts of the value have the types that it announces. The fields of a bean are typed by its
schema and not here. -/
def WellTyped : Value → Prop
  | scalar s => s.InRange
  | leaf l c => l.shape.Holds c
  | option t content => ContentWellTyped t content
  | list t items => AllWellTyped t items
  | set _ t items => AllWellTyped t items
  | map _ k v entries => EntriesWellTyped k v entries
  | bean _ cells => CellsWellTyped cells
termination_by structural x => x

def ContentWellTyped (t : Ty) : Option Value → Prop
  | none => True
  | some v => v.type = t ∧ v.WellTyped
termination_by structural x => x

def AllWellTyped (t : Ty) : List Value → Prop
  | [] => True
  | v :: rest => v.type = t ∧ v.WellTyped ∧ AllWellTyped t rest
termination_by structural x => x

def EntriesWellTyped (key value : Ty) : List (Value × Value) → Prop
  | [] => True
  | (k, v) :: rest =>
    (k.type = key ∧ k.WellTyped) ∧ (v.type = value ∧ v.WellTyped) ∧ EntriesWellTyped key value rest
termination_by structural x => x

def CellWellTyped : Option Value → Prop
  | none => True
  | some v => v.WellTyped
termination_by structural x => x

def CellsWellTyped : List (Option Value) → Prop
  | [] => True
  | v :: rest => CellWellTyped v ∧ CellsWellTyped rest
termination_by structural x => x

end

/-! ### First values -/

/-- The zero of a number type; `false` and the null character count as zeros. -/
def zeroOfScalar? : Scalar → Option ScalarValue
  | .bool => some (.bool false)
  | .char => some (.char '\x00')
  | .int k => some (.int k 0)
  | .float f => some (.float f 0)
  | .string => none

def zero? : Ty → Option Value
  | .scalar s => (zeroOfScalar? s).map scalar
  | _ => none

end Value

end Beans
