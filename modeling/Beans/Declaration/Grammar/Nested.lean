import Beans.Declaration.Grammar.Expression
import Beans.Declaration.Grammar.Type
/-!
# The nested grammar

The grammar whose parts are read by itself, down to a depth that no declaration reaches.
-/

set_option autoImplicit false

namespace Beans.Declaration

namespace Grammar

/-- The grammar that reads one level, and has the parts read by another grammar. -/
def around (g : Grammar) : Grammar where
  type := g.typeOf
  path := g.pathOf
  expression := g.expressionOf
  operand := g.operandOf
  operators := g.operatorsOf
  standing := g.standingOf
  pattern := g.patternOf
  statements := g.statementsOf

/-- The grammar that reads what is nested up to a depth. -/
def nested : Nat → Grammar
  | 0 => empty
  | depth + 1 => (nested depth).around

end Grammar

def greatestDepth : Nat :=
  3000

def grammar : Grammar :=
  .nested greatestDepth

end Beans.Declaration
