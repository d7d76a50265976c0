import Beans.Declaration.Grammar.Attribute
/-!
# Paths

A path is a list of words with `::` between them, and perhaps one in front, or behind a type in angle
brackets. Keywords are no words of a path, but for those that name a place, and these have no arguments.
Wherever they stand among the arguments, lifetimes are written first.
-/

set_option autoImplicit false

namespace Beans.Declaration.Grammar

open TokenReader

variable (g : Grammar)

/-! ### Lists in angle brackets -/

/-- Something in a list, with its text, and whether a comma follows. -/
structure Placed where
  isLifetime : Bool
  text : String
  hasComma : Bool

/-- The texts of a list with the commas that belong to them, and one wherever it is missing. -/
def Placed.join : List Placed → String
  | [] => ""
  | [p] => p.text ++ if p.hasComma then "," else ""
  | p :: rest => p.text ++ "," ++ join rest

/-- The texts of a list, lifetimes first. -/
def Placed.arrange (list : List Placed) : String :=
  join (list.filter (·.isLifetime) ++ list.filter (!·.isLifetime))

/-! ### Bounds -/

inductive BoundKind where
  | lifetime
  | trait
  | capture
deriving DecidableEq

structure BoundRules where
  allowsCapture : Bool := false
  /-- Traits may have to hold of constants. -/
  allowsConstant : Bool := false

def binder : TokenReader Unit := do
  keyword "for"
  mark "<"
  repeating do
    if ← sees (Ahead.mark ">") then return false
    let _ ← g.attributes
    lifetime
    if ← sees (Ahead.mark ">") then return false
    comma
    return true
  mark ">"

def acceptBinder : TokenReader Bool := do
  let isNext ← sees (Ahead.word "for")
  if isNext then g.binder
  return isNext

def returned (allowsPlus : Bool) : TokenReader Unit := do
  if ← acceptMark "->" then
    let _ ← g.type allowsPlus

def callArguments : TokenReader Unit := do
  group .parentheses <| ContentReader.items do
    let _ ← g.type true
  g.returned false

def constancy (rules : BoundRules) : TokenReader Unit := do
  if ← sees (Ahead.isGroup .brackets) then
    group .brackets do keyword "const"
    if !rules.allowsConstant then fail (.constantBound true)
  else if ← acceptWord "const" then
    if !rules.allowsConstant then fail (.constantBound false)

def trait (rules : BoundRules) : TokenReader Unit := do
  let hasBinder ← g.acceptBinder
  constancy rules
  let isMaybe ← acceptMark "?"
  if isMaybe && !hasBinder then
    let _ ← g.acceptBinder
  let p ← g.path false
  if p.segments.getLast?.any (·.arguments.isNone) then
    if ← sees fun a => Ahead.mark "::" a && Ahead.isGroup .parentheses (a.drop 2) then
      let _ ← withText (mark "::")
    if ← sees (Ahead.isGroup .parentheses) then g.callArguments

/-- What a type captures: lifetimes and parameters, of which lifetimes are written first. -/
def captureList : TokenReader Unit := do
  keyword "use"
  mark "<"
  let list ← repeatFrom [] fun before => do
    let a ← ahead
    if Ahead.mark ">" a then return (before, false)
    let isLifetime := Ahead.isLifetime a
    if !isLifetime && !Ahead.isName a && !Ahead.word "Self" a then
      expected ["lifetime", "identifier", "`>`"]
    let ((), text) ← withText skip
    if ← sees (Ahead.mark ">") then return (before ++ [⟨isLifetime, text, false⟩], false)
    let _ ← withText (commaAmong "`,` or `>`")
    return (before ++ [⟨isLifetime, text, true⟩], true)
  write (Placed.arrange list)
  mark ">"

def bound (rules : BoundRules) : TokenReader BoundKind := do
  let a ← ahead
  if Ahead.isLifetime a then
    lifetime
    return .lifetime
  if Ahead.word "use" a then
    captureList
    if !rules.allowsCapture then fail .capture
    return .capture
  if Ahead.isGroup .parentheses a then
    group .parentheses do g.trait rules
  else g.trait rules
  return .trait

def startsBound (a : List Token) : Bool :=
  Ahead.isWord a || Ahead.anyMark ["::", "?"] a || Ahead.isLifetime a || Ahead.isGroup .parentheses a

/-- Bounds with a `+` between them, and perhaps one behind the last. -/
def bounds (allowsPlus : Bool) (rules : BoundRules) : TokenReader (List BoundKind) :=
  repeatFrom [] fun before => do
    let kinds := before ++ [← g.bound rules]
    if allowsPlus && (← acceptMark "+") then
      return (kinds, ← sees fun a =>
        startsBound a || (rules.allowsConstant && Ahead.isGroup .brackets a))
    else return (kinds, false)

/-! ### Arguments in angle brackets -/

structure PathArgument where
  isLifetime : Bool := false
  /-- The text of an argument that is a type. -/
  type? : Option String := none
  /-- Whether the argument ends where more may come of it. -/
  isOpen : Bool := false

def constant : TokenReader Unit := do
  let a ← ahead
  if Ahead.isLiteral a then literal
  else if Ahead.isName a then
    let _ ← name
  else g.block

def startsConstant (a : List Token) : Bool :=
  Ahead.isLiteral a || Ahead.isGroup .braces a

def namedArgument : TokenReader Unit := do
  if ← sees startsConstant then g.constant
  else
    let _ ← g.type true

/-- The bounds of a named argument, of which there may be none, and whether another one may come. -/
def boundedArgument : TokenReader Bool :=
  repeatFrom false fun _ => do
    if ← sees (Ahead.mark ">") then return (false, false)
    if ← seesEnd then return (true, false)
    let _ ← g.bound { allowsConstant := true }
    return (false, ← acceptMark "+")

def pathArgument : TokenReader PathArgument := do
  let a ← ahead
  if Ahead.isLifetime a && !Ahead.mark "+" (a.drop 1) then
    lifetime
    return { isLifetime := true }
  if startsConstant a then
    g.constant
    return {}
  let (form, text) ← captured (g.type true)
  match form with
  | .path p =>
    if p.isSingle then
      if ← acceptMark "=" then
        g.namedArgument
        return {}
      if ← acceptMark ":" then
        return { isOpen := ← g.boundedArgument }
    return { type? := some text }
  | _ => return { type? := some text }

/-- The arguments in angle brackets, of which lifetimes are written first. -/
def pathArguments : TokenReader (List (Option String)) := do
  mark "<"
  let arguments ← repeatFrom [] fun before => do
    if ← sees (Ahead.mark ">") then return (before, false)
    let (argument, text) ← withText g.pathArgument
    let placed (hasComma : Bool) : Placed := ⟨argument.isLifetime, text, hasComma⟩
    if ← sees (Ahead.mark ">") then return (before ++ [(argument, placed false)], false)
    let _ ← withText (if argument.isOpen then commaAmong "identifier" else comma)
    return (before ++ [(argument, placed true)], true)
  write (Placed.arrange (arguments.map (·.2)))
  mark ">"
  return arguments.map (·.1.type?)

/-! ### Paths -/

def segment (isExpression : Bool) : TokenReader Segment := do
  if ← sees (Ahead.anyWord ["super", "self", "crate", "try"]) then return { name := ← anyWord }
  let name ← if ← sees (Ahead.word "Self") then anyWord else name
  let a ← ahead
  if !isExpression && Ahead.mark "<" a && !Ahead.anyMark ["<=", "<<="] a then
    return { name, arguments := some (← g.pathArguments) }
  if Ahead.mark "::" a && Ahead.mark "<" (a.drop 2) then
    mark "::"
    return { name, arguments := some (← g.pathArguments) }
  return { name }

/-- The further words of a path behind some. A path may leave a `::` to what stands in parentheses. -/
def furtherSegments (isExpression mayLeave : Bool) (first : Segment) : TokenReader (List Segment) :=
  repeatFrom [first] fun before => do
    if ← sees fun a => Ahead.mark "::" a && !(mayLeave && Ahead.isGroup .parentheses (a.drop 2)) then
      mark "::"
      return (before ++ [← g.segment isExpression], true)
    else return (before, false)

def pathOf (isExpression : Bool) : TokenReader PathForm := do
  let isRooted ← acceptMark "::"
  return { isRooted, segments := ← g.furtherSegments isExpression true (← g.segment isExpression) }

def qualifiedPath (isExpression : Bool) : TokenReader PathForm := do
  if ← acceptMark "<" then
    let _ ← g.type true
    if ← acceptWord "as" then
      let _ ← g.path false
    mark ">"
    mark "::"
    let first ← g.segment isExpression
    return { isQualified := true, segments := ← g.furtherSegments isExpression false first }
  else g.pathOf isExpression

end Beans.Declaration.Grammar
