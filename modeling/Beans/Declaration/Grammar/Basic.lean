import Beans.Declaration.TokenReader
/-!
# The grammar of declarations

Types, paths, expressions, patterns and statements hold each other. A grammar gives a reader for each of
them; the readers of one level are written for the parts that another grammar reads. Before a reader takes
a token it looks at the next ones.
-/

set_option autoImplicit false

namespace Beans.Declaration

/-! ### What comes next -/

namespace Ahead

def marks : List Char → List Token → Bool
  | [], _ => true
  | [c], t :: _ => t.isMark c
  | c :: cs, .mark d isJoint :: rest => c = d && isJoint && marks cs rest
  | _, _ => false

def mark (text : String) (tokens : List Token) : Bool :=
  marks text.toList tokens

def anyMark (texts : List String) (tokens : List Token) : Bool :=
  texts.any (mark · tokens)

/-- Whether a word comes next that is not raw. -/
def word (name : String) (tokens : List Token) : Bool :=
  tokens.head?.any (·.isWord name)

def anyWord (names : List String) (tokens : List Token) : Bool :=
  names.any (word · tokens)

/-- Whether a word comes next, be it a keyword or not. -/
def isWord : List Token → Bool
  | .word _ _ :: _ => true
  | _ => false

def isName (tokens : List Token) : Bool :=
  tokens.head?.any (·.isName)

def isLifetime : List Token → Bool
  | .lifetime _ :: _ => true
  | _ => false

def isGroup (delimiter : Delimiter) : List Token → Bool
  | .group d _ :: _ => d = delimiter
  | _ => false

/-- Whether a literal comes next: a quoted one, a number with or without a sign, or a truth value. -/
def isLiteral : List Token → Bool
  | .literal _ _ :: _ => true
  | .mark '-' _ :: .literal (.integer _ _) _ :: _ | .mark '-' _ :: .literal .float _ :: _ => true
  | tokens => anyWord ["true", "false"] tokens

def isInteger : List Token → Bool
  | .literal (.integer _ _) _ :: _ | .mark '-' _ :: .literal (.integer _ _) _ :: _ => true
  | _ => false

end Ahead

namespace TokenReader

/-! ### Words and marks -/

def name : TokenReader String := do
  match (← ahead).head? with
  | some t =>
    match t with
    | .word _ name =>
      if t.isName then
        skip
        return t.text
      else fail (.keyword name)
    | _ => expected ["identifier"]
  | none => expected ["identifier"]

def anyWord : TokenReader String :=
  take (fun t => match t with
    | .word _ _ => some t.text
    | _ => none) "identifier"

def keyword (name : String) : TokenReader Unit :=
  take (fun t => if t.isWord name then some () else none) s!"`{name}`"

def acceptWord (name : String) : TokenReader Bool := do
  let isNext ← sees (Ahead.word name)
  if isNext then skip
  return isNext

def skipMany : Nat → TokenReader Unit
  | 0 => return
  | n + 1 => do
    skip
    skipMany n

def mark (text : String) : TokenReader Unit := do
  if ← sees (Ahead.mark text) then skipMany text.length else fail (.expectedMark text)

def acceptMark (text : String) : TokenReader Bool := do
  let isNext ← sees (Ahead.mark text)
  if isNext then mark text
  return isNext

def lifetime : TokenReader Unit :=
  take (fun t => match t with
    | .lifetime _ => some ()
    | _ => none) "lifetime"

def string : TokenReader String :=
  take (fun t => match t with
    | .literal (.string value) _ => some value
    | _ => none) "string literal"

def literal : TokenReader Unit := do
  if ← sees Ahead.isLiteral then
    let _ ← acceptMark "-"
    skip
  else expected ["literal"]

/-- Takes a group in any delimiters, whatever it holds. -/
def anyGroup : TokenReader Delimiter :=
  take (fun t => match t with
    | .group d _ => some d
    | _ => none) "delimiter"

/-! ### Fields -/

def fieldNumberOf (isNegative hasSuffix : Bool) (value : Nat) : Except TokenError String :=
  if hasSuffix then .error (.expected false ["unsuffixed integer"])
  else
    match IntKind.u32.read 10 ((if isNegative then "-" else "") ++ toString value) with
    | .ok n => .ok (toString n)
    | .error e => .error (.number e)

def fieldNumber : TokenReader Unit := do
  let (isNegative, _) ← withText (acceptMark "-")
  match (← ahead).head? with
  | some (.literal (.integer value hasSuffix) _) =>
    let _ ← withText skip
    write (← ofExcept (fieldNumberOf isNegative hasSuffix value))
  | _ => expected ["integer literal"]

def fieldNumbersOf (isNegative : Bool) (parts : List String) : Except TokenError (List String) :=
  parts.mapM fun part =>
    match LiteralKind.read? part.toList with
    | some (.integer value hasSuffix, []) => fieldNumberOf isNegative hasSuffix value
    | _ => .error (.expected false ["integer literal"])

/-- Takes the name or the number of a field, and says whether it is a name. -/
def fieldName : TokenReader Bool := do
  let a ← ahead
  if Ahead.isName a then
    let _ ← name
    return true
  if Ahead.isInteger a then
    fieldNumber
    return false
  expected ["identifier or integer"]

end TokenReader

namespace ContentReader

def atComma : ContentReader Bool := fun s =>
  .ok (s.rest.head?.any Token.isComma, s)

end ContentReader

/-! ### What is read -/

structure Segment where
  name : String
  /-- The arguments in angle brackets; of those that are types, the texts. -/
  arguments : Option (List (Option String)) := none

structure PathForm where
  /-- Whether the path starts with a type in angle brackets. -/
  isQualified : Bool := false
  /-- Whether the path starts with `::`. -/
  isRooted : Bool := false
  segments : List Segment

namespace PathForm

def isPlain (p : PathForm) : Bool :=
  p.segments.all (·.arguments.isNone)

/-- Whether the path is a single word, perhaps with arguments. -/
def isSingle (p : PathForm) : Bool :=
  !p.isQualified && !p.isRooted && p.segments.length = 1

def startsMacro (p : PathForm) (a : List Token) : Bool :=
  !p.isQualified && p.isPlain && Ahead.mark "!" a && !Ahead.mark "!=" a

end PathForm

inductive TypeForm where
  | path (p : PathForm)
  /-- Bounds that stand for a type without a keyword. -/
  | bounds (isSingle : Bool)
  | other

inductive ExpressionForm where
  | range
  | comparison
  /-- An expression that ends with its block, and needs no mark behind it. -/
  | block
  | bracedMacro
  | other
deriving DecidableEq

inductive PatternForm where
  | openRange
  | other
deriving DecidableEq

/-- How tight operators bind, the loosest first. -/
inductive Precedence where
  | jump
  | assign
  | range
  | or
  | and
  | compare
  | bitOr
  | bitXor
  | bitAnd
  | shift
  | sum
  | product
  | cast
deriving DecidableEq

namespace Precedence

def rank : Precedence → Nat
  | jump => 0
  | assign => 1
  | range => 2
  | or => 3
  | and => 4
  | compare => 5
  | bitOr => 6
  | bitXor => 7
  | bitAnd => 8
  | shift => 9
  | sum => 10
  | product => 11
  | cast => 12

end Precedence

/-- Readers of the things that hold each other. -/
structure Grammar where
  /-- A type, which may end with further bounds behind a `+` or not. -/
  type : (allowsPlus : Bool) → TokenReader TypeForm
  /-- A path. In expressions, arguments come behind a `::` only. -/
  path : (isExpression : Bool) → TokenReader PathForm
  /-- An expression, which may be a record or not. -/
  expression : (allowsRecord : Bool) → TokenReader ExpressionForm
  /-- An expression without operators between two others. -/
  operand : (allowsRecord : Bool) → TokenReader ExpressionForm
  /-- The operators behind an expression that bind tightly enough, with what follows them. -/
  operators : (allowsRecord : Bool) → Precedence → ExpressionForm → TokenReader ExpressionForm
  /-- An expression that is over with its block, if it starts with one. -/
  standing : TokenReader ExpressionForm
  /-- A pattern without alternatives. -/
  pattern : TokenReader PatternForm
  /-- The statements of a block. -/
  statements : ContentReader Unit

namespace Grammar

def empty : Grammar where
  type _ := .fail .tooDeep
  path _ := .fail .tooDeep
  expression _ := .fail .tooDeep
  operand _ := .fail .tooDeep
  operators _ _ _ := .fail .tooDeep
  standing := .fail .tooDeep
  pattern := .fail .tooDeep
  statements := throw .tooDeep

variable (g : Grammar)

def plainBlock : TokenReader Unit :=
  .group .braces g.statements

end Grammar

end Beans.Declaration
