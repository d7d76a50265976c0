import Beans.Schema.Basic
import Beans.Validation
/-!
# Rows

A row is a bean with any number of cells, each of which holds a value or null. The members of a row type
are given by rules: what to read, what to write, and what to build a row from.
-/

set_option autoImplicit false

namespace Beans

inductive ReadRule where
  | refuse (e : MemberError)
  | null
  /-- Reads the name of the bean's type. -/
  | typeName
  | constant (v : Value)
  /-- Reads a cell, of any bean if `isOpen`, or else of a row of the type. -/
  | cell (index : Nat) (isOpen : Bool)

inductive StoreRule where
  | any
  /-- As one of the type in place of another. -/
  | value (type : Ty) (name : String)
  /-- As one of the type, or null. -/
  | nullable (type : Ty)

inductive WriteRule where
  | refuse (e : MemberError)
  | cell (index : Nat) (isOpen : Bool) (store : StoreRule)

inductive ArgumentRule where
  | required (type : Ty) (index : Nat)
  | nullable (type : Ty) (index : Nat)
  | checked (type : Ty) (index : Nat) (check : Check) (name : String)

inductive BuildRule where
  | refuse (e : MemberError)
  /-- Builds a row from arguments and the cells behind them. -/
  | row (type : BeanType) (arguments : List ArgumentRule) (rest : List (Option Value))

/-- The bean, if it is one of the type or may be any. -/
def Bean.opened (b : Bean) (type : BeanType) (isOpen : Bool) : Except MemberError Bean :=
  if isOpen then .ok b else b.instanceOf type

def ReadRule.reader (type : BeanType) (rule : ReadRule) : Reader := fun b =>
  match rule with
  | refuse e => .error e
  | null => .ok none
  | typeName => .ok (some (.ofString b.type.name))
  | constant v => .ok (some v)
  | cell index isOpen => (b.opened type isOpen).map (·.cell? index)

/-- What a cell holds after a value, or null, was offered, and the refusal if there was one. -/
def StoreRule.store (rule : StoreRule) (old new : Option Value) :
    Option Value × Except MemberError Unit :=
  match rule with
  | any => (new, .ok ())
  | value t name =>
    if old.map Value.type = some t then
      match assigned t name new with
      | .ok v => (some v, .ok ())
      | .error e => (old, .error e)
    else (old, .error (.validation "slot holds another type"))
  | nullable t =>
    match assignedOpt t new with
    | .ok v => (v, .ok ())
    | .error e => (old.filter (·.type = t), .error e)

/-- A row gets the cells that it lacks also where the value is refused. -/
def WriteRule.writer (type : BeanType) (rule : WriteRule) : Writer := fun v => do
  match rule with
  | refuse e => throw e
  | cell index isOpen store =>
    let b ← ofExcept ((← getThe Bean).opened type isOpen)
    let (held, outcome) := store.store (b.cell? index) v
    set (b.setCell index held)
    ofExcept outcome

def ArgumentRule.take : ArgumentRule → TakeM (Option Value)
  | required t index => some <$> Arguments.take t index
  | nullable t index => Arguments.take? t index
  | checked t index check name => do
    return some (← ofExcept (check.run name (← Arguments.take? t index)))

def BuildRule.invoke (rule : BuildRule) (a : Arguments) : Except MemberError Bean :=
  match rule with
  | refuse e => .error e
  | row type arguments rest => do
    let cells ← ((arguments.mapM ArgumentRule.take).run a).1
    return ⟨type, cells ++ rest⟩

end Beans
