import Beans.Error
import Beans.Table
import Beans.Value.Basic
/-!
# Text converters

A converter holds, for some types, a function that reads a value of the type from text. The standard
converter knows the scalars.
-/

set_option autoImplicit false

namespace Beans

abbrev TextReader := String → Except TextError Value

structure Converter where
  readers : Table Ty TextReader

namespace Converter

def empty : Converter := ⟨∅⟩

/-- Adds the reader of a type, in place of one that is there. -/
def register (c : Converter) (type : Ty) (read : TextReader) : Converter :=
  ⟨c.readers.insert type read⟩

def contains (c : Converter) (type : Ty) : Bool :=
  c.readers.contains type

def read (c : Converter) (type : Ty) (text : String) : Except TextError Value :=
  match c.readers.get? type with
  | some read => read text
  | none => .error (.noConverter type)

def debug (c : Converter) : String :=
  Text.debugRecord "StringConverter" [("parsers", toString c.readers.size)]

def readScalar : Scalar → TextReader
  | .bool, text =>
    match text with
    | "true" => .ok (.ofBool true)
    | "false" => .ok (.ofBool false)
    | _ => .error .bool
  | .char, text =>
    match text.toList with
    | [c] => .ok (.scalar (.char c))
    | chars => .error (.char chars.isEmpty)
  | .int k, text => ((k.read 10 text).map (.ofInt k)).mapError .int
  | .float f, text => ((f.read text).map fun bits => .scalar (.float f bits)).mapError .float
  | .string, text => .ok (.ofString text)

def standard : Converter :=
  Scalar.all.foldl (fun c s => c.register (.scalar s) (readScalar s)) empty

end Converter

/-- The converter of a descriptor: the one that all descriptors share at first, which is the standard
one, or one of its own. -/
inductive ConverterChoice where
  | shared
  | own (c : Converter)

def ConverterChoice.converter : ConverterChoice → Converter
  | shared => .standard
  | own c => c

end Beans
