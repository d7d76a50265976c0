import Beans.Serialization.Basic
/-!
# JSON text

The serializer that writes compact JSON. Keys are texts: booleans, characters and integers are put in
quotes, and other keys refused. A number that is not finite is `null`.
-/

set_option autoImplicit false

namespace Beans.Json

/-- Floating-point numbers in JSON: an exponent with a sign for large and small numbers, where single
precision takes other bounds than double precision. Of two decimals that are equally near the even one
is written. -/
def floatStyle (f : FloatFormat) : FloatStyle where
  leastPositional :=
    match f with
    | .single => -6
    | .double => -5
  greatestPositional :=
    match f with
    | .single => 12
    | .double => 15
  plus := true
  tiesToEven := true
  nan := "null"
  infinity := "null"
  negativeInfinity := "null"

/-- A list or map that is not closed yet. -/
inductive Frame where
  | list (isFirst : Bool)
  /-- A key comes next. -/
  | key (isFirst : Bool)
  /-- The value of a key comes next. -/
  | value

structure State where
  text : String := ""
  frames : List Frame := []

def scalarText : ScalarValue → String
  | .bool b => Text.debugBool b
  | .char c => Text.jsonString (String.singleton c)
  | .int _ n => toString n
  | .float f bits => f.text (floatStyle f) bits
  | .string s => Text.jsonString s

def keyText : ScalarValue → Except String String
  | .bool b => .ok (Text.jsonString (Text.debugBool b))
  | .int _ n => .ok (Text.jsonString (toString n))
  | .float f bits =>
    if f.isNaN bits || f.isInfinite bits then .error "float key must be finite"
    else .ok (Text.jsonString (f.text (floatStyle f) bits))
  | s => .ok (scalarText s)

namespace State

def push (s : State) (text : String) : State :=
  { s with text := s.text ++ text }

/-- Writes what stands before a value that is no scalar, which cannot be a key. -/
def beginValue (s : State) : Except String State :=
  match s.frames with
  | [] => .ok s
  | .list isFirst :: rest =>
    .ok { text := if isFirst then s.text else s.text ++ ",", frames := .list false :: rest }
  | .key _ :: _ => .error "key must be a string"
  | .value :: rest => .ok { s with frames := .key false :: rest }

def accept : SerialEvent → State → Except String State
  | .scalar v, s =>
    match s.frames with
    | .key isFirst :: rest => do
      let comma := if isFirst then "" else ","
      let key ← keyText v
      return { text := s.text ++ comma ++ key ++ ":", frames := .value :: rest }
    | _ => return (← s.beginValue).push (scalarText v)
  | .none, s => return (← s.beginValue).push "null"
  | .some, s => .ok s
  | .listStart _, s => do
    let s ← s.beginValue
    return { text := s.text ++ "[", frames := .list true :: s.frames }
  | .listEnd, s => .ok { text := s.text ++ "]", frames := s.frames.drop 1 }
  | .mapStart _, s => do
    let s ← s.beginValue
    return { text := s.text ++ "\x7b", frames := .key true :: s.frames }
  | .mapEnd, s => .ok { text := s.text ++ "\x7d", frames := s.frames.drop 1 }

end State

def writer : Serializer State := ⟨State.accept⟩

end Beans.Json

namespace Beans

def Registry.toJson (r : Registry) (depth : Nat) (b : Bean) : ExceptT String RegistryM String := do
  let (_, s) ← (Json.writer.emitBean r depth b).run {}
  return s.text

end Beans
