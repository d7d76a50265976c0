import Beans.Declaration.Grammar.Path
/-!
# Types

Types as they may be written: paths, tuples, slices and arrays, references and pointers, functions, and
objects of traits.
-/

set_option autoImplicit false

namespace Beans.Declaration.Grammar

open TokenReader

variable (g : Grammar)

def typeStarts : List String :=
  ["`for`", "parentheses", "`fn`", "`unsafe`", "`extern`", "identifier", "`::`", "`<`", "`dyn`",
   "square brackets", "`*`", "`&`", "`!`", "`impl`", "`_`", "lifetime"]

/-- What a type may go on with behind the lifetimes that it introduces. -/
def boundTypeStarts : List String :=
  ["identifier", "`fn`", "`unsafe`", "`extern`", "`super`", "`self`", "`Self`", "`crate`"]

def furtherBounds : TokenReader Unit :=
  repeating do
    let isNext ← acceptMark "+"
    if isNext then
      let _ ← g.bound {}
    return isNext

/-- Bounds among which there is a trait. -/
def traitBounds (allowsPlus isOpaque : Bool) : TokenReader Unit := do
  let kinds ← g.bounds allowsPlus { allowsCapture := isOpaque, allowsConstant := isOpaque }
  if !kinds.contains .trait then fail (.noTrait isOpaque)

inductive Enclosed where
  | type (form : TypeForm)
  /-- A trait that need not hold. -/
  | maybe
  | other

def enclosed : ContentReader Enclosed := do
  if ← ContentReader.atEnd then return .other
  if ← sees Ahead.isLifetime then
    g.traitBounds true false
    return .other
  if ← sees (Ahead.mark "?") then
    g.trait {}
    return .maybe
  let first ← g.type true
  if ← ContentReader.atComma then
    comma
    ContentReader.items do
      let _ ← g.type true
    return .other
  return .type first

/-- A tuple, or a type in parentheses, which with a `+` behind it is the first of several bounds. -/
def parenthesizedType (allowsPlus : Bool) : TokenReader TypeForm := do
  match ← group .parentheses g.enclosed with
  | .other => return .other
  | .maybe =>
    g.furtherBounds
    return .bounds false
  | .type form =>
    let isBound := match form with
      | .path p => !p.isQualified
      | .bounds isSingle => isSingle
      | .other => false
    if allowsPlus && isBound && (← sees (Ahead.mark "+")) then
      g.furtherBounds
      return .bounds false
    return .other

/-- A parameter of a function, which may have a name, and whether it is three dots, behind which there are
no more. Only the first one may be the bean itself, perhaps as a variable. -/
def parameter (isFirst : Bool) : ContentReader Bool := do
  let _ ← g.attributes
  let isVariable ← sees fun a => isFirst && Ahead.word "mut" a && Ahead.word "self" (a.drop 1)
  if isVariable then keyword "mut"
  let a ← ahead
  let isSelf := isFirst && Ahead.word "self" a
  let isNamed := (Ahead.isName a || Ahead.word "_" a || isSelf) && Ahead.mark ":" (a.drop 1)
    && !Ahead.mark "::" (a.drop 1)
  if isNamed then
    let _ ← anyWord
    mark ":"
  if !isSelf && (← sees (Ahead.mark "...")) then
    mark "..."
    if ← ContentReader.atComma then comma
    return true
  if isVariable && !isNamed then keyword "self"
  else
    let _ ← g.type true
  return false

def parameters : ContentReader Unit := do
  if ← ContentReader.atEnd then return
  if ← g.parameter true then return
  ContentReader.repeating do
    if ← ContentReader.atEnd then return false
    comma
    if ← ContentReader.atEnd then return false
    return !(← g.parameter false)

def functionType : TokenReader TypeForm := do
  let _ ← acceptWord "unsafe"
  if ← acceptWord "extern" then
    if ← sees fun a => match a with
      | .literal (.string _) _ :: _ => true
      | _ => false then skip
  keyword "fn"
  group .parentheses g.parameters
  g.returned false
  return .other

/-- A path, which with a `+` behind it is the first of several bounds. -/
def pathType (allowsPlus hasBinder : Bool) : TokenReader TypeForm := do
  let p ← g.qualifiedPath false
  if p.isQualified then return .path p
  let a ← ahead
  if p.startsMacro a then
    mark "!"
    let _ ← anyGroup
    return .other
  let isLonger := allowsPlus && Ahead.mark "+" a
  if isLonger then
    repeating do
      if ← acceptMark "+" then
        if ← sees startsBound then
          let _ ← g.bound {}
          return true
      return false
  return if isLonger || hasBinder then .bounds !isLonger else .path p

def elements : ContentReader Unit := do
  let _ ← g.type true
  if ← acceptMark ";" then
    let _ ← g.expression true

def pointerType : TokenReader TypeForm := do
  mark "*"
  if ← sees (Ahead.anyWord ["const", "mut"]) then skip else expected ["`const`", "`mut`"]
  let _ ← g.type false
  return .other

def referenceType : TokenReader TypeForm := do
  mark "&"
  if ← sees Ahead.isLifetime then lifetime
  let _ ← acceptWord "mut"
  let _ ← g.type false
  return .other

def typeOf (allowsPlus : Bool) : TokenReader TypeForm := do
  let hasBinder ← g.acceptBinder
  let a ← ahead
  let startsPath :=
    Ahead.isName a || Ahead.anyWord ["super", "self", "Self", "crate"] a
  let startsFunction := Ahead.anyWord ["fn", "unsafe", "extern"] a
  if hasBinder && !startsPath && !startsFunction then expected boundTypeStarts
  else if Ahead.isGroup .parentheses a then g.parenthesizedType allowsPlus
  else if startsFunction then g.functionType
  else if startsPath || Ahead.anyMark ["::", "<"] a then g.pathType allowsPlus hasBinder
  else if Ahead.word "dyn" a then
    keyword "dyn"
    let _ ← acceptMark "*"
    g.traitBounds allowsPlus false
    return .other
  else if Ahead.isGroup .brackets a then
    group .brackets g.elements
    return .other
  else if Ahead.mark "*" a then g.pointerType
  else if Ahead.mark "&" a then g.referenceType
  else if Ahead.mark "!" a && !Ahead.mark "!=" a then
    mark "!"
    return .other
  else if Ahead.word "impl" a then
    keyword "impl"
    g.traitBounds allowsPlus true
    return .other
  else if Ahead.word "_" a then
    skip
    return .other
  else if Ahead.isLifetime a then
    g.traitBounds true false
    return .bounds false
  else expected typeStarts

end Beans.Declaration.Grammar
