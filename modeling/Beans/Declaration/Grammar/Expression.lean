import Beans.Declaration.Grammar.Pattern
/-!
# Expressions

Expressions as they may be written: operands with what is applied to them, and operators between them,
of which each has a precedence. Comparisons have no order among themselves, and so are not chained.
-/

set_option autoImplicit false

namespace Beans.Declaration.Grammar

open TokenReader

variable (g : Grammar)

/-! ### Operators -/

/-- Operators between two operands. Where one starts like another, the longer one comes first. -/
def binaryOperators : List (String × Precedence) :=
  [("+=", .assign), ("-=", .assign), ("*=", .assign), ("/=", .assign), ("%=", .assign), ("^=", .assign),
   ("&=", .assign), ("|=", .assign), ("<<=", .assign), (">>=", .assign), ("&&", .and), ("||", .or),
   ("<<", .shift), (">>", .shift), ("==", .compare), ("<=", .compare), ("!=", .compare),
   (">=", .compare), ("+", .sum), ("-", .sum), ("*", .product), ("/", .product), ("%", .product),
   ("^", .bitXor), ("&", .bitAnd), ("|", .bitOr), ("<", .compare), (">", .compare)]

def binaryOperator? (a : List Token) : Option (String × Precedence) :=
  binaryOperators.find? fun (text, _) => Ahead.mark text a

def seesAssign (a : List Token) : Bool :=
  Ahead.mark "=" a && !Ahead.mark "=>" a

def precedenceAhead (a : List Token) : Precedence :=
  match binaryOperator? a with
  | some (_, p) => p
  | none =>
    if seesAssign a then .assign
    else if Ahead.mark ".." a then .range
    else if Ahead.word "as" a then .cast
    else .jump

def rightSide (allowsRecord : Bool) (p : Precedence) : TokenReader Unit := do
  let first ← g.operand allowsRecord
  let _ ← repeatFrom first fun right => do
    let next := precedenceAhead (← ahead)
    if right ≠ .range && (p.rank < next.rank || (next = .assign && p = .assign)) then
      return (← g.operators allowsRecord next right, true)
    else return (right, false)

/-- The dots of a range, and whether they include the end. -/
def dots : TokenReader Bool := do
  let a ← ahead
  if Ahead.mark "..=" a then
    mark "..="
    return true
  if Ahead.mark "..." a then expected ["`..=`"]
  mark ".."
  return false

def rangeEnd (allowsRecord isClosed : Bool) : TokenReader Unit := do
  let a ← ahead
  let isOpen := !isClosed && ((← seesEnd)
    || Ahead.anyMark [";", "?", "=>", "=", "+", "/", "%", "^", ">", "<=", "!=", "-=", "*=", "&=", "|=",
      "<<="] a
    || (Ahead.mark "." a && !Ahead.mark ".." a) || Ahead.word "as" a
    || (!allowsRecord && Ahead.isGroup .braces a))
  if !isOpen then g.rightSide allowsRecord .range

/-- Refuses what binds tighter than a cast behind it. -/
def endCast : TokenReader Unit := do
  let a ← ahead
  if Ahead.mark "." a && !Ahead.mark ".." a then
    if Ahead.word "await" (a.drop 1) then fail (.afterCast "`.await`")
    else if Ahead.isName (a.drop 1)
        && (Ahead.isGroup .parentheses (a.drop 2) || Ahead.mark "::" (a.drop 2)) then
      fail (.afterCast "a method call")
    else fail (.afterCast "a field access")
  else if Ahead.mark "?" a then fail (.afterCast "`?`")
  else if Ahead.isGroup .brackets a then fail (.afterCast "indexing")
  else if Ahead.isGroup .parentheses a then fail (.afterCast "a function call")

/-- The operators behind an expression that bind at least as tight as `least`. -/
def operatorsOf (allowsRecord : Bool) (least : Precedence) (first : ExpressionForm) :
    TokenReader ExpressionForm :=
  repeatFrom first fun left => do
    if left = .range then return (left, false)
    let a ← ahead
    match binaryOperator? a with
    | some (text, p) =>
      if p.rank < least.rank then return (left, false)
      if p = .compare && left = .comparison then fail .chainedComparisons
      mark text
      g.rightSide allowsRecord p
      return (if p = .compare then .comparison else .other, true)
    | none =>
      if least.rank ≤ Precedence.assign.rank && seesAssign a then
        mark "="
        g.rightSide allowsRecord .assign
        return (.other, true)
      else if least.rank ≤ Precedence.range.rank && Ahead.mark ".." a then
        let isClosed ← dots
        g.rangeEnd allowsRecord isClosed
        return (.range, true)
      else if Ahead.word "as" a then
        keyword "as"
        let _ ← g.type false
        endCast
        return (.other, true)
      else return (left, false)

def expressionOf (allowsRecord : Bool) : TokenReader ExpressionForm := do
  g.operatorsOf allowsRecord .jump (← g.operand allowsRecord)

/-! ### What is applied to an operand -/

def content : ContentReader Unit := do
  let _ ← g.expression true

def memberAccess : TokenReader Unit := do
  let isNamed ← fieldName
  let hasArguments ← if isNamed then sees (Ahead.mark "::") else pure false
  if hasArguments then
    mark "::"
    let _ ← g.pathArguments
  if hasArguments || (isNamed && (← sees (Ahead.isGroup .parentheses))) then
    group .parentheses (ContentReader.items g.content)

def seesFloat (a : List Token) : Bool :=
  match a with
  | .literal .float _ :: _ | .mark '-' _ :: .literal .float _ :: _ => true
  | _ => false

/-- Takes numbers of fields that look like one number, which may end with a point, and says whether they
do. -/
def fieldNumbers : TokenReader Bool := do
  let (isNegative, _) ← withText (acceptMark "-")
  let ((), text) ← withText skip
  let endsOpen := text.endsWith "."
  let parts := if endsOpen then (text.splitOn ".").dropLast else text.splitOn "."
  write (".".intercalate (← ofExcept (fieldNumbersOf isNegative parts)))
  if endsOpen then write "."
  return endsOpen

/-- What stands behind the point of a member: numbers with a point between them look like one number. -/
def behindPoint : TokenReader Unit := do
  let goesOn ← if ← sees seesFloat then fieldNumbers else pure true
  if goesOn then
    if !(← acceptWord "await") then g.memberAccess

def applications (first : ExpressionForm) : TokenReader ExpressionForm :=
  repeatFrom first fun e => do
    let a ← ahead
    if Ahead.isGroup .parentheses a then
      group .parentheses (ContentReader.items g.content)
      return (.other, true)
    else if Ahead.mark "." a && !Ahead.mark ".." a && e ≠ .range then
      mark "."
      g.behindPoint
      return (.other, true)
    else if Ahead.isGroup .brackets a then
      group .brackets g.content
      return (.other, true)
    else if Ahead.mark "?" a && e ≠ .range then
      mark "?"
      return (.other, true)
    else return (e, false)

/-! ### Operands -/

/-- A field of a record, which may stand for a variable of its name. -/
def fieldValue : ContentReader Unit := do
  let _ ← g.attributes
  let isNamed ← fieldName
  if !isNamed || (← sees (Ahead.mark ":")) then
    mark ":"
    g.content

def fieldValues : ContentReader Unit :=
  ContentReader.repeating do
    if ← ContentReader.atEnd then return false
    if ← acceptMark ".." then
      if !(← ContentReader.atEnd) then g.content
      return false
    g.fieldValue
    if ← ContentReader.atEnd then return false
    comma
    return true

def macroCall : TokenReader ExpressionForm := do
  return if (← anyGroup) = .braces then .bracedMacro else .other

def behindPath (allowsRecord : Bool) (p : PathForm) : TokenReader ExpressionForm := do
  let a ← ahead
  if p.startsMacro a then
    mark "!"
    macroCall
  else
    if allowsRecord && Ahead.isGroup .braces a then group .braces g.fieldValues
    return .other

def pathExpression (allowsRecord : Bool) : TokenReader ExpressionForm := do
  g.behindPath allowsRecord (← g.qualifiedPath true)

/-- Whether a parameter list follows a keyword, and no type in angle brackets. -/
def seesBinder (a : List Token) : Bool :=
  let second := a.drop 1
  let third := a.drop 2
  Ahead.mark "<" a && (Ahead.anyMark [">", "#"] second || Ahead.word "const" second
    || ((Ahead.isLifetime second || Ahead.isName second)
      && (third.isEmpty || Ahead.anyMark [">", "="] third
        || (Ahead.mark ":" third && !Ahead.mark "::" third))))

def startsClosure (a : List Token) : Bool :=
  let next := a.drop 1
  Ahead.mark "|" a || Ahead.anyWord ["move", "static"] a
    || (Ahead.word "for" a && seesBinder next)
    || (Ahead.word "const" a && !Ahead.isGroup .braces next)
    || (Ahead.word "async" a && (Ahead.mark "|" next || Ahead.word "move" next))

def closure (allowsRecord : Bool) : TokenReader Unit := do
  let _ ← g.acceptBinder
  let _ ← acceptWord "const"
  let _ ← acceptWord "static"
  let _ ← acceptWord "async"
  let _ ← acceptWord "move"
  mark "|"
  repeating do
    if ← sees (Ahead.mark "|") then return false
    let _ ← g.attributes
    let _ ← g.pattern
    if ← acceptMark ":" then
      let _ ← g.type true
    if ← sees (Ahead.mark "|") then return false
    comma
    return true
  mark "|"
  if ← acceptMark "->" then
    let _ ← g.type true
    g.plainBlock
  else
    let _ ← g.expression allowsRecord

def conditional : TokenReader Unit :=
  repeating do
    keyword "if"
    let _ ← g.expression false
    g.plainBlock
    if !(← acceptWord "else") then return false
    let a ← ahead
    if Ahead.word "if" a then return true
    if Ahead.isGroup .braces a then g.plainBlock else expected ["`if`", "curly braces"]
    return false

def whileLoop : TokenReader Unit := do
  keyword "while"
  let _ ← g.expression false
  g.block

def forLoop : TokenReader Unit := do
  keyword "for"
  let _ ← g.alternatives
  keyword "in"
  let _ ← g.expression false
  g.block

def endlessLoop : TokenReader Unit := do
  keyword "loop"
  g.block

def labeled : TokenReader Unit := do
  lifetime
  mark ":"
  let a ← ahead
  if Ahead.word "while" a then g.whileLoop
  else if Ahead.word "for" a then g.forLoop
  else if Ahead.word "loop" a then g.endlessLoop
  else if Ahead.isGroup .braces a then g.block
  else expected ["loop or block expression"]

/-- A case, with a comma behind it if another one follows that does not end with its block. -/
def case : ContentReader Unit := do
  let _ ← g.attributes
  g.alternativesWithin
  if ← acceptWord "if" then g.content
  mark "=>"
  let form ← g.standing
  if form ≠ .block && !(← ContentReader.atEnd) then comma
  else if ← ContentReader.atComma then comma

def cases : ContentReader Unit := do
  g.innerAttributes
  ContentReader.repeating do
    if ← ContentReader.atEnd then return false
    g.case
    return true

def matching : TokenReader Unit := do
  keyword "match"
  let _ ← g.expression false
  group .braces g.cases

def startsExpression (a : List Token) : Bool :=
  let alone (text : String) (longer : List String) := Ahead.mark text a && !Ahead.anyMark longer a
  (Ahead.isWord a && !Ahead.word "as" a) || Ahead.isGroup .parentheses a || Ahead.isGroup .brackets a
    || Ahead.isGroup .braces a || Ahead.isLiteral a || alone "!" ["!="] || alone "-" ["-=", "->"]
    || alone "*" ["*="] || alone "|" ["|="] || alone "&" ["&="] || alone "<" ["<=", "<<="]
    || Ahead.anyMark ["..", "::", "#"] a || Ahead.isLifetime a

def valueBehind (allowsRecord : Bool) : TokenReader Unit := do
  let a ← ahead
  if startsExpression a && (allowsRecord || !Ahead.isGroup .braces a) then
    let _ ← g.expression true

def breaking (allowsRecord : Bool) : TokenReader Unit := do
  keyword "break"
  let a ← ahead
  if Ahead.isLifetime a then
    if Ahead.mark ":" (a.drop 1) then
      let _ ← g.expression true
      fail .labelWithoutParentheses
    lifetime
  g.valueBehind allowsRecord

def tuple : ContentReader Unit := do
  if !(← ContentReader.atEnd) then
    g.content
    if !(← ContentReader.atEnd) then
      comma
      ContentReader.items g.content

def array : ContentReader Unit := do
  if !(← ContentReader.atEnd) then
    g.content
    if ← ContentReader.atComma then
      comma
      ContentReader.items g.content
    else if ← acceptMark ";" then g.content
    else if !(← ContentReader.atEnd) then expected ["`,` or `;`"]

def letting (allowsRecord : Bool) : TokenReader Unit := do
  keyword "let"
  let _ ← g.alternatives
  mark "="
  let _ ← g.operators allowsRecord .compare (← g.operand allowsRecord)

def ending (p : TokenReader Unit) : TokenReader ExpressionForm := do
  p
  return .block

def simply (p : TokenReader Unit) : TokenReader ExpressionForm := do
  p
  return .other

/-- Whether something follows that only a compiler knows. -/
def startsBuiltin (a : List Token) : Bool :=
  Ahead.word "builtin" a && Ahead.mark "#" (a.drop 1)

def builtin : TokenReader Unit := do
  keyword "builtin"
  mark "#"
  let _ ← name
  if ← sees (Ahead.isGroup .parentheses) then skip else expected [Delimiter.parentheses.name]

def wordBlock (name : String) : TokenReader Unit := do
  keyword name
  g.block

def atom (allowsRecord : Bool) : TokenReader ExpressionForm := do
  let a ← ahead
  let next := a.drop 1
  if Ahead.isLiteral a then simply literal
  else if Ahead.word "async" a && (Ahead.isGroup .braces next
      || (Ahead.word "move" next && Ahead.isGroup .braces (a.drop 2))) then
    simply do
      skip
      let _ ← acceptWord "move"
      g.plainBlock
  else if Ahead.word "try" a && Ahead.isGroup .braces next then
    ending do
      keyword "try"
      g.plainBlock
  else if startsClosure a then simply (g.closure allowsRecord)
  else if startsBuiltin a then simply builtin
  else if startsPlainPath a || Ahead.anyMark ["::", "<"] a
      || (Ahead.word "try" a && Ahead.anyMark ["!", "::"] next) then
    g.pathExpression allowsRecord
  else if Ahead.isGroup .parentheses a then simply (group .parentheses g.tuple)
  else if Ahead.word "break" a then simply (g.breaking allowsRecord)
  else if Ahead.word "continue" a then
    simply do
      skip
      if ← sees Ahead.isLifetime then lifetime
  else if Ahead.anyWord ["return", "yield"] a then
    simply do
      skip
      g.valueBehind true
  else if Ahead.word "become" a then
    simply do
      skip
      let _ ← g.expression true
  else if Ahead.isGroup .brackets a then simply (group .brackets g.array)
  else if Ahead.word "let" a then simply (g.letting allowsRecord)
  else if Ahead.word "if" a then ending g.conditional
  else if Ahead.word "while" a then ending g.whileLoop
  else if Ahead.word "for" a then ending g.forLoop
  else if Ahead.word "loop" a then ending g.endlessLoop
  else if Ahead.word "match" a then ending g.matching
  else if Ahead.word "unsafe" a then ending (g.wordBlock "unsafe")
  else if Ahead.word "const" a then ending (g.wordBlock "const")
  else if Ahead.isGroup .braces a then ending g.block
  else if Ahead.mark ".." a then
    let isClosed ← dots
    g.rangeEnd allowsRecord isClosed
    return .range
  else if Ahead.word "_" a then simply skip
  else if Ahead.isLifetime a then ending g.labeled
  else expected ["an expression"]

def operandOf (allowsRecord : Bool) : TokenReader ExpressionForm := do
  let hasAttributes ← g.attributes
  let a ← ahead
  if Ahead.mark "&" a then
    mark "&"
    let next := (← ahead).drop 1
    if (← sees (Ahead.word "raw")) && Ahead.anyWord ["mut", "const"] next then skipMany 2
    else
      let _ ← acceptWord "mut"
    simply do
      let _ ← g.operand allowsRecord
  else if Ahead.anyMark ["*", "!", "-"] a then
    simply do
      skip
      let _ ← g.operand allowsRecord
  else
    let form ← g.applications (← g.atom allowsRecord)
    if hasAttributes && form = .range then fail .attributesOnRange
    return form

/-- Whether an expression that starts here ends with its block where a statement may end. -/
def startsStanding (a : List Token) : Bool :=
  let next := a.drop 1
  Ahead.anyWord ["if", "while", "loop", "match", "unsafe"] a
    || (Ahead.word "for" a && !seesBinder next)
    || (Ahead.anyWord ["try", "const"] a && Ahead.isGroup .braces next)
    || Ahead.isGroup .braces a || Ahead.isLifetime a

def seesMember (a : List Token) : Bool :=
  (Ahead.mark "." a && !Ahead.mark ".." a) || Ahead.mark "?" a

/-- An expression that is over with its block, unless a member of it or a `?` follows. -/
def standingOf : TokenReader ExpressionForm := do
  let _ ← g.attributes
  if ← sees startsStanding then
    let form ← g.atom true
    if ← sees seesMember then
      g.operators true .jump (← g.applications form)
    else return form
  else g.operators true .jump (← g.operand true)

/-! ### Statements -/

def startsItem (a : List Token) : Bool :=
  let next := a.drop 1
  let third := a.drop 2
  let startsFunction (a : List Token) := Ahead.anyWord ["unsafe", "extern", "fn"] a
  Ahead.anyWord ["pub", "extern", "use", "fn", "mod", "type", "struct", "enum", "trait", "impl", "macro"] a
    || (Ahead.word "crate" a && !Ahead.mark "::" next)
    || (Ahead.word "static" a && (Ahead.word "mut" next || Ahead.isName next))
    || (Ahead.word "const" a && !Ahead.isGroup .braces next && !Ahead.anyWord ["static", "move"] next
      && !Ahead.mark "|" next && (!Ahead.word "async" next || startsFunction third))
    || (Ahead.word "unsafe" a && !Ahead.isGroup .braces next)
    || (Ahead.word "async" a && startsFunction next)
    || (Ahead.word "union" a && Ahead.isName next)
    || (Ahead.word "auto" a && Ahead.word "trait" next)
    || (Ahead.word "default" a && Ahead.anyWord ["unsafe", "impl"] next)

def item : ContentReader Unit := do
  let needsSemicolon ← sees fun a =>
    Ahead.anyWord ["use", "static", "type"] a
      || (Ahead.word "const" a && !Ahead.anyWord ["fn", "unsafe", "async", "extern"] (a.drop 1))
  ContentReader.repeating do
    if ← ContentReader.atEnd then return false
    let a ← ahead
    skip
    return !(Ahead.mark ";" a || (!needsSemicolon && Ahead.isGroup .braces a))

/-- A variable with its value, and perhaps a block for values that do not match. A value that ends in
braces has no such block. -/
def localVariable : TokenReader Unit := do
  keyword "let"
  let _ ← g.pattern
  if ← acceptMark ":" then
    let _ ← g.type true
  if ← acceptMark "=" then
    let (_, text) ← captured (g.expression true)
    if !text.endsWith "\x7d" then
      if ← acceptWord "else" then g.plainBlock
  mark ";"

/-- Whether a semicolon is wanted behind an expression, which may stand there already. -/
def wantsSemicolon (form : ExpressionForm) : TokenReader Bool := do
  return !(← acceptMark ";") && form ≠ .block && form ≠ .bracedMacro

/-- A statement that starts with a path, and whether a semicolon is wanted behind it. A macro may make an
item with a name, and one in braces is over with them, unless a member of it or a `?` follows. -/
def pathStatement : TokenReader Bool := do
  let p ← g.qualifiedPath true
  let isMacro := p.startsMacro (← ahead)
  if isMacro && (← sees fun a => Ahead.isName (a.drop 1) || Ahead.word "try" (a.drop 1)) then
    mark "!"
    let _ ← anyWord
    if (← anyGroup) ≠ .braces then mark ";"
    return false
  let form ← g.behindPath true p
  if form = .bracedMacro && !(← sees seesMember) then wantsSemicolon form
  else wantsSemicolon (← g.operators true .jump (← g.applications form))

/-- A statement, and whether a semicolon is wanted behind it. -/
def statement : ContentReader Bool := do
  let _ ← g.attributes
  let a ← ahead
  if Ahead.word "let" a then
    g.localVariable
    return false
  if startsItem a then
    item
    return false
  if (startsPlainPath a || Ahead.mark "::" a) && !startsBuiltin a then g.pathStatement
  else wantsSemicolon (← g.standing)

def statementsOf : ContentReader Unit :=
  ContentReader.repeating do
    ContentReader.repeating do acceptMark ";"
    if ← ContentReader.atEnd then return false
    let isOpen ← g.statement
    if ← ContentReader.atEnd then return false
    if isOpen then throw .expectedSemicolon
    return true

end Beans.Declaration.Grammar
