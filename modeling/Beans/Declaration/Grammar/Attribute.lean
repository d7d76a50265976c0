import Beans.Declaration.Grammar.Basic
/-!
# Attributes in declarations

Attributes stand in front of what they belong to, or as inner ones at the start of a block. Each has a path
of words, and behind it a group, a value, or nothing.
-/

set_option autoImplicit false

namespace Beans.Declaration.Grammar

open TokenReader

variable (g : Grammar)

def startsPlainPath (a : List Token) : Bool :=
  Ahead.isName a || Ahead.anyWord ["super", "self", "Self", "crate"] a

def plainPath : TokenReader Unit := do
  let _ ← acceptMark "::"
  if !(← sees startsPlainPath) then
    let _ ← name
  repeating do
    let _ ← anyWord
    if !(← acceptMark "::") then return false
    if !(← sees startsPlainPath) then expected ["path segment after `::`"]
    return true

def attributeContent : ContentReader Unit := do
  if !(← acceptWord "unsafe") then plainPath
  let a ← ahead
  if [.parentheses, .brackets, .braces].any (Ahead.isGroup · a) then skip
  else if Ahead.mark "=" a && !Ahead.anyMark ["==", "=>"] a then
    mark "="
    if ← sees fun a => Ahead.mark "#" a && Ahead.isGroup .brackets (a.drop 1) then
      (fail .attributeInAttribute : TokenReader Unit)
    let _ ← g.expression true

/-- Attributes in front of something, and whether there are any. -/
def attributes : TokenReader Bool :=
  repeatFrom false fun hasAny => do
    if ← acceptMark "#" then
      group .brackets g.attributeContent
      return (true, true)
    else return (hasAny, false)

def innerAttributes : TokenReader Unit :=
  repeating do
    if ← sees fun a => Ahead.mark "#" a && Ahead.mark "!" (a.drop 1) then
      mark "#"
      mark "!"
      group .brackets g.attributeContent
      return true
    else return false

/-- A block, which may have attributes of its own. -/
def block : TokenReader Unit :=
  group .braces do
    g.innerAttributes
    g.statements

end Beans.Declaration.Grammar
