import Beans.Registry
/-!
# Serialization

A value is handed to a serializer as a sequence of events. A bean is a map of its properties that are
not null. A serializer may refuse an event; then, and where a bean cannot be read or a leaf has no
general form, the sequence stops with the text of the reason.
-/

set_option autoImplicit false

namespace Beans

/-- What a serializer is told. A list or map announces the number of its parts, and the keys and values
of a map take turns. -/
inductive SerialEvent where
  | scalar (s : ScalarValue)
  | none
  /-- What follows is the content of an `Option`. -/
  | some
  | listStart (size : Nat)
  | listEnd
  | mapStart (size : Nat)
  | mapEnd
deriving DecidableEq, Repr

/-- A scalar as serializers are given it: integers of the size of an address have 64 bits. -/
def ScalarValue.portable : ScalarValue → ScalarValue
  | int .usize n => int .u64 n
  | int .isize n => int .i64 n
  | s => s

structure Serializer (σ : Type) where
  accept : SerialEvent → σ → Except String σ

abbrev SerialM (σ : Type) := StateT σ (ExceptT String RegistryM)

namespace Serializer

variable {σ : Type} (S : Serializer σ)

def emit (e : SerialEvent) : SerialM σ Unit := do
  set (← ofExcept (S.accept e (← getThe σ)))

/-- The result of a look-up, whose error becomes a text. -/
def attempt {α : Type} (x : LookupM α) : SerialM σ α := do
  let r ← (x.run : RegistryM (Except BeanError α))
  ofExcept (r.mapError BeanError.message)

def present (r : Registry) (b : Bean) : LookupM (List (String × Value)) := do
  let d ← r.lookupBean b
  let values ← ofExcept (d.readAll b)
  return values.filterMap fun (name, v) => v.map (name, ·)

mutual

def emitValue (bean : Bean → SerialM σ Unit) : Value → SerialM σ Unit
  | .scalar s => S.emit (.scalar s.portable)
  | .leaf l _ =>
    throw s!"cannot serialize opaque value of type `{l.path}`"
  | .option _ content => emitContent bean content
  | .list _ items => do
    S.emit (.listStart items.length)
    emitItems bean items
    S.emit .listEnd
  | .set _ _ items => do
    S.emit (.listStart items.length)
    emitItems bean items
    S.emit .listEnd
  | .map _ _ _ entries => do
    S.emit (.mapStart entries.length)
    emitEntries bean entries
    S.emit .mapEnd
  | .bean b cells => bean ⟨b, cells⟩
termination_by structural x => x

def emitContent (bean : Bean → SerialM σ Unit) : Option Value → SerialM σ Unit
  | none => S.emit .none
  | some v => do
    S.emit .some
    emitValue bean v
termination_by structural x => x

def emitItems (bean : Bean → SerialM σ Unit) : List Value → SerialM σ Unit
  | [] => pure ()
  | v :: rest => do
    emitValue bean v
    emitItems bean rest
termination_by structural x => x

def emitEntries (bean : Bean → SerialM σ Unit) : List (Value × Value) → SerialM σ Unit
  | [] => pure ()
  | (k, v) :: rest => do
    emitValue bean k
    emitValue bean v
    emitEntries bean rest
termination_by structural x => x

end

def emitProperties (bean : Bean → SerialM σ Unit) : List (String × Value) → SerialM σ Unit
  | [] => pure ()
  | (name, v) :: rest => do
    S.emit (.scalar (.string name))
    S.emitValue bean v
    emitProperties bean rest

/-- Hands over a bean. Reading a property may make a new bean, so `depth` bounds how many lie one in
another. -/
def emitBean (r : Registry) : Nat → Bean → SerialM σ Unit
  | 0, _ => throw "beans are nested too deeply"
  | depth + 1, b => do
    let properties ← attempt (present r b)
    S.emit (.mapStart properties.length)
    S.emitProperties (emitBean r depth) properties
    S.emit .mapEnd

end Serializer

end Beans
