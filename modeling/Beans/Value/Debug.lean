import Beans.Number.Decimal
import Beans.Text.Debug
import Beans.Ty.Name
import Beans.Value.Traits
/-!
# Debug text of values

Numbers are written in decimal digits, texts and characters in quotes, and compound values with their
parts in brackets.
-/

set_option autoImplicit false

namespace Beans

/-- Floating-point numbers in debug text: an exponent from `1e16` up and below `1e-4`. Of two decimals
that are equally near the greater one is written. -/
def FloatStyle.debug : FloatStyle where
  leastPositional := -4
  greatestPositional := 15
  plus := false
  tiesToEven := false
  nan := "NaN"
  infinity := "inf"
  negativeInfinity := "-inf"

def ScalarValue.debug : ScalarValue → String
  | bool b => Text.debugBool b
  | char c => Text.debugChar c
  | int _ n => toString n
  | float f bits => f.text .debug bits
  | string s => Text.debugString s

def BeanType.debug (b : BeanType) (cells : List (Option String)) : String :=
  match b.layout with
  | .record fields =>
    Text.debugRecord b.name ((fields.map (·.name)).zip (cells.map (·.getD "None")))
  | .row => b.name ++ Text.debugList (cells.map Text.debugOption)

namespace Value

variable [Traits]

mutual

def debug : Value → String
  | scalar s => s.debug
  | leaf l c => (Traits.leaf l).debug c
  | option _ content => Text.debugOption (debugCell content)
  | list _ items => Text.debugList (debugItems items)
  | set _ _ items => Text.debugSet (debugItems items)
  | map _ _ _ entries => Text.debugMap (debugEntries entries)
  | bean b cells => b.debug (debugCells cells)
termination_by structural x => x

def debugItems : List Value → List String
  | [] => []
  | v :: rest => v.debug :: debugItems rest
termination_by structural x => x

def debugEntries : List (Value × Value) → List (String × String)
  | [] => []
  | (k, v) :: rest => (k.debug, v.debug) :: debugEntries rest
termination_by structural x => x

def debugCell : Option Value → Option String
  | none => none
  | some v => some v.debug
termination_by structural x => x

def debugCells : List (Option Value) → List (Option String)
  | [] => []
  | v :: rest => debugCell v :: debugCells rest
termination_by structural x => x

end

def debug? (v : Option Value) : String :=
  Text.debugOption (v.map debug)

end Value

end Beans
