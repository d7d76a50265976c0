import Beans.Declaration.Grammar.Path
/-!
# Patterns

Patterns as they may be written: names, places, paths, constants and ranges, and what holds other patterns.
-/

set_option autoImplicit false

namespace Beans.Declaration.Grammar

open TokenReader

variable (g : Grammar)

def patternStarts : List String :=
  ["identifier", "`::`", "`<`", "`_`", "literal", "`const`", "`ref`", "`mut`", "`&`", "parentheses",
   "square brackets", "`..`", "`const`"]

def seesAlternative (a : List Token) : Bool :=
  Ahead.mark "|" a && !Ahead.anyMark ["||", "|="] a

def alternatives : TokenReader PatternForm := do
  let hasMark ← acceptMark "|"
  let first ← g.pattern
  if !hasMark && !(← sees seesAlternative) then return first
  repeating do
    if !(← sees seesAlternative) then return false
    mark "|"
    let _ ← g.pattern
    return true
  return .other

def alternativesWithin : ContentReader Unit := do
  let _ ← g.alternatives

/-- The dots of a range in a pattern, and whether they include the end. Three dots mean the same as the
two that include it, and are written so. -/
def patternDots : TokenReader Bool := do
  if ← sees (Ahead.mark "..=") then
    mark "..="
    return true
  if ← sees (Ahead.mark "...") then
    let _ ← withText (mark "...")
    write "..="
    return true
  mark ".."
  return false

def patternBound : TokenReader Bool := do
  let a ← ahead
  if (← seesEnd) || Ahead.anyMark ["|", "=", ";"] a || Ahead.word "if" a
      || (Ahead.mark ":" a && !Ahead.mark "::" a) then
    return false
  if Ahead.isLiteral a then literal
  else if Ahead.isName a || Ahead.anyMark ["::", "<"] a
      || Ahead.anyWord ["self", "Self", "super", "crate"] a then
    let _ ← g.qualifiedPath true
  else if Ahead.word "const" a then
    keyword "const"
    g.block
  else
    expected ["literal", "identifier", "`::`", "`<`", "`self`", "`Self`", "`super`", "`crate`", "`const`"]
  return true

/-- The dots and the end of a range, and whether it has an end. -/
def patternRange : TokenReader Bool := do
  let isClosed ← patternDots
  let hasEnd ← g.patternBound
  if !hasEnd && isClosed then expected ["range upper bound"]
  return hasEnd

def startedRange : TokenReader PatternForm := do
  return if ← g.patternRange then .other else .openRange

/-- A field of a record in a pattern, which may stand for a variable of its name. -/
def fieldPattern : ContentReader Unit := do
  let isBoxed ← acceptWord "box"
  let isReference ← acceptWord "ref"
  let isMutable ← acceptWord "mut"
  if isBoxed || isReference || isMutable then
    let _ ← name
  else
    let isNamed ← fieldName
    if !isNamed || (← sees (Ahead.mark ":")) then
      mark ":"
      g.alternativesWithin

def fieldPatterns : ContentReader Unit :=
  ContentReader.repeating do
    if ← ContentReader.atEnd then return false
    let _ ← g.attributes
    if ← acceptMark ".." then return false
    g.fieldPattern
    if ← ContentReader.atEnd then return false
    comma
    return true

def elementPattern : ContentReader Unit := do
  if (← g.alternatives) = .openRange then (fail .openRange : TokenReader Unit)

/-- Reads a pattern of no special form. -/
def plainly (p : TokenReader Unit) : TokenReader PatternForm := do
  p
  return .other

def pathPattern : TokenReader PatternForm := do
  let p ← g.qualifiedPath true
  let a ← ahead
  if p.startsMacro a then
    plainly do
      mark "!"
      let _ ← anyGroup
  else if Ahead.isGroup .braces a then plainly (group .braces g.fieldPatterns)
  else if Ahead.isGroup .parentheses a then
    plainly (group .parentheses (ContentReader.items g.alternativesWithin))
  else if Ahead.mark ".." a then g.startedRange
  else return .other

def constantPattern : TokenReader PatternForm := do
  let _ ← g.patternBound
  if ← sees (Ahead.mark "..") then g.startedRange else return .other

def variablePattern : TokenReader Unit := do
  let _ ← acceptWord "ref"
  let _ ← acceptWord "mut"
  let _ ← if ← sees (Ahead.word "self") then anyWord else name
  if ← acceptMark "@" then
    let _ ← g.pattern

def restPattern : TokenReader PatternForm := do
  return if ← g.patternRange then .openRange else .other

def patternOf : TokenReader PatternForm := do
  let a ← ahead
  let next := a.drop 1
  if (Ahead.isName a && (Ahead.anyMark ["::", "!", ".."] next || Ahead.isGroup .braces next
        || Ahead.isGroup .parentheses next))
      || (Ahead.word "self" a && Ahead.mark "::" next)
      || Ahead.anyMark ["::", "<"] a || Ahead.anyWord ["Self", "super", "crate"] a then
    g.pathPattern
  else if Ahead.word "_" a then plainly skip
  else if Ahead.word "box" a then
    plainly do
      keyword "box"
      let _ ← g.pattern
  else if Ahead.mark "-" a || Ahead.isLiteral a || Ahead.word "const" a then g.constantPattern
  else if Ahead.anyWord ["ref", "mut", "self"] a || Ahead.isName a then plainly g.variablePattern
  else if Ahead.mark "&" a then
    plainly do
      mark "&"
      let _ ← acceptWord "mut"
      let _ ← g.pattern
  else if Ahead.isGroup .parentheses a then
    plainly (group .parentheses (ContentReader.items g.alternativesWithin))
  else if Ahead.isGroup .brackets a then
    plainly (group .brackets (ContentReader.items g.elementPattern))
  else if Ahead.mark "..." a then expected (patternStarts.erase "`..`")
  else if Ahead.mark ".." a then g.restPattern
  else expected patternStarts

end Beans.Declaration.Grammar
