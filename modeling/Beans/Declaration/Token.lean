import Beans.Declaration.Literal
/-!
# Tokens of declarations

The texts in a declaration (types, paths, expressions, attributes) are read as tokens: words, lifetimes,
literals, marks, and groups in brackets, which hold tokens themselves. Blanks and comments only separate
tokens. A word may be written raw, and then is no keyword.
-/

set_option autoImplicit false

namespace Beans.Declaration

inductive Delimiter where
  | parentheses
  | brackets
  | braces
deriving DecidableEq, Repr

namespace Delimiter

def opening : Delimiter → Char
  | parentheses => '('
  | brackets => '['
  | braces => '\x7b'

def closing : Delimiter → Char
  | parentheses => ')'
  | brackets => ']'
  | braces => '\x7d'

def name : Delimiter → String
  | parentheses => "parentheses"
  | brackets => "square brackets"
  | braces => "curly braces"

def ofOpening? (c : Char) : Option Delimiter :=
  [parentheses, brackets, braces].find? (·.opening = c)

def ofClosing? (c : Char) : Option Delimiter :=
  [parentheses, brackets, braces].find? (·.closing = c)

end Delimiter

inductive Token where
  | word (isRaw : Bool) (name : String)
  | lifetime (name : String)
  | literal (kind : LiteralKind) (text : String)
  /-- A character of punctuation. It is joint if another one follows at once that is no comma. -/
  | mark (char : Char) (isJoint : Bool)
  | group (delimiter : Delimiter) (content : List Token)
deriving Repr, Inhabited

namespace Token

/-! ### Texts of tokens -/

def compact (s : String) : String :=
  String.ofList (s.toList.filter (!isBlank ·))

mutual

def text : Token → String
  | word isRaw name => if isRaw then "r#" ++ name else name
  | lifetime name => "'" ++ name
  | literal _ text => text
  | mark char _ => String.singleton char
  | group delimiter content =>
    String.singleton delimiter.opening ++ textOf content ++ String.singleton delimiter.closing

def textOf : List Token → String
  | [] => ""
  | t :: rest => text t ++ textOf rest

end

/-! ### Kinds of tokens -/

def isMark (t : Token) (c : Char) : Bool :=
  match t with
  | mark char _ => char = c
  | _ => false

/-- Whether the token is a word that is not raw. -/
def isWord (t : Token) (name : String) : Bool :=
  match t with
  | word false n => n = name
  | _ => false

def isComma (t : Token) : Bool :=
  t.isMark ','

def keywords : List String :=
  ["_", "abstract", "as", "async", "await", "become", "box", "break", "const", "continue", "crate",
   "do", "dyn", "else", "enum", "extern", "false", "final", "fn", "for", "if", "impl", "in", "let",
   "loop", "macro", "match", "mod", "move", "mut", "override", "priv", "pub", "ref", "return", "Self",
   "self", "static", "struct", "super", "trait", "true", "try", "type", "typeof", "unsafe", "unsized",
   "use", "virtual", "where", "while", "yield"]

def isName : Token → Bool
  | word isRaw name => isRaw || !keywords.contains name
  | _ => false

/-! ### Reading tokens -/

inductive Gap where
  /-- A blank or a comment, with the text behind it. -/
  | skipped (rest : List Char)
  /-- A comment that documents what follows, or what it stands in. It counts as an attribute. -/
  | documented (isInner : Bool) (text : String) (rest : List Char)

def isLineEnd (c : Char) : Bool :=
  c == '\n'

/-- The text behind a comment, given what follows its opening; comments in it are closed on their own. -/
def behindComment : Nat → List Char → Option (List Char)
  | _, [] => none
  | depth, '/' :: '*' :: rest => behindComment (depth + 1) rest
  | depth, '*' :: '/' :: rest => if depth = 0 then some rest else behindComment (depth - 1) rest
  | depth, _ :: rest => behindComment depth rest

/-- The text of a comment in marks, given what follows its opening, and the text behind it. -/
def commentBody (chars : List Char) : Option (String × List Char) := do
  let rest ← behindComment 0 chars
  return (String.ofList (chars.take (chars.length - rest.length - 2)), rest)

/-- What is left of a line without the carriage return that belongs to its end. -/
def lineText (line rest : List Char) : String :=
  String.ofList (if rest.isEmpty || line.getLast? ≠ some '\r' then line else line.dropLast)

/-- A comment that documents, in which carriage returns have to end lines. -/
def documented? (isInner : Bool) (text : String) (rest : List Char) : Option Gap :=
  if LiteralKind.hasBareReturn text.toList then none else some (.documented isInner text rest)

/-- The gap at the front of a text, if there is one. A line comment with three strokes documents, with
four it does not. -/
def gap? (chars : List Char) : Option Gap :=
  let lineBody? (isInner : Bool) (rest : List Char) : Option Gap :=
    let behind := rest.dropWhile (!isLineEnd ·)
    documented? isInner (lineText (rest.takeWhile (!isLineEnd ·)) behind) behind
  match chars with
  | '/' :: '/' :: '!' :: rest => lineBody? true rest
  | '/' :: '/' :: '/' :: '/' :: rest => some (.skipped (rest.dropWhile (!isLineEnd ·)))
  | '/' :: '/' :: '/' :: rest => lineBody? false rest
  | '/' :: '/' :: rest => some (.skipped (rest.dropWhile (!isLineEnd ·)))
  | '/' :: '*' :: '*' :: '/' :: rest => some (.skipped rest)
  | '/' :: '*' :: '*' :: '*' :: rest => (commentBody ('*' :: '*' :: rest)).map (.skipped ·.2)
  | '/' :: '*' :: '*' :: rest => (commentBody rest).bind fun (text, rest) => documented? false text rest
  | '/' :: '*' :: '!' :: rest => (commentBody rest).bind fun (text, rest) => documented? true text rest
  | '/' :: '*' :: rest => (commentBody rest).map (.skipped ·.2)
  | c :: rest =>
    if isBlank c || c.toNat = 0x200e || c.toNat = 0x200f then some (.skipped rest) else none
  | [] => none

def documentation (isInner : Bool) (text : String) : List Token :=
  [mark '#' isInner] ++ (if isInner then [mark '!' false] else []) ++
    [group .brackets
      [word false "doc", mark '=' false, literal (.string text) (Text.debugString text)]]

/-- Whether a text goes on with a character of punctuation, which the opening of a comment is not. -/
def startsWithMark : List Char → Bool
  | '/' :: '/' :: _ | '/' :: '*' :: _ => false
  | c :: _ => "~!@#$%^&*-=+|;:,<.>/?'".toList.contains c
  | [] => false

/-- The word at the front of a text. What starts like a quoted text with a letter in front is none, and a
few keywords may not be written raw. -/
def word? (chars : List Char) : Option (Token × List Char) :=
  let openings := ["r\"", "r#\"", "r##", "b\"", "b'", "br\"", "br#", "c\"", "cr\"", "cr#"]
  if openings.any fun opening => opening.toList.isPrefixOf chars then none
  else match chars with
  | 'r' :: '#' :: rest => do
    let (name, rest) ← spanWord? rest
    if ["_", "super", "self", "Self", "crate"].contains name then none
    return (word true name, rest)
  | chars => (spanWord? chars).map fun (name, rest) => (word false name, rest)

def lifetime? (chars : List Char) : Option (Token × List Char) := do
  let (t, rest) ← word? chars
  if rest.head? = some '\'' || (rest.head? = some '#' && !"r#".toList.isPrefixOf chars) then none
  return (lifetime t.text, rest)

def leaf? (chars : List Char) : Option (Token × List Char) :=
  match LiteralKind.read? chars with
  | some (kind, rest) =>
    some (literal kind (String.ofList (chars.take (chars.length - rest.length))), rest)
  | none =>
    if startsWithMark chars then
      match chars with
      | '\'' :: rest => lifetime? rest
      | c :: rest => some (mark c (startsWithMark rest && rest.head? ≠ some ','), rest)
      | [] => none
    else word? chars

/-- A group that is not closed yet, with the tokens in front of it, the last one first. -/
structure OpenGroup where
  delimiter : Delimiter
  before : List Token

/-- Reads tokens one by one: `tokens` are those read in the innermost open group, the last one first.
Each step takes a character at least, so as many steps as there are characters are enough. -/
def readAll : Nat → List OpenGroup → List Token → List Char → Option (List Token)
  | _, [], tokens, [] => some tokens.reverse
  | fuel + 1, groups, tokens, c :: rest =>
    match gap? (c :: rest) with
    | some (.skipped rest) => readAll fuel groups tokens rest
    | some (.documented isInner text rest) =>
      readAll fuel groups ((documentation isInner text).reverse ++ tokens) rest
    | none =>
      match Delimiter.ofOpening? c with
      | some delimiter => readAll fuel (⟨delimiter, tokens⟩ :: groups) [] rest
      | none =>
        match Delimiter.ofClosing? c, groups with
        | some delimiter, g :: groups =>
          if g.delimiter = delimiter then
            readAll fuel groups (group delimiter tokens.reverse :: g.before) rest
          else none
        | some _, [] => none
        | none, groups =>
          match leaf? (c :: rest) with
          | some (t, rest) => readAll fuel groups (t :: tokens) rest
          | none => none
  | _, _, _, _ => none

/-- The tokens of a text, which may start with a byte order mark. -/
def ofText? (s : String) : Option (List Token) :=
  let chars := match s.toList with
    | c :: rest => if c.toNat = 0xfeff then rest else c :: rest
    | [] => []
  readAll chars.length [] [] chars

end Token

/-- A name without the mark of a raw word. -/
def plainName (s : String) : String :=
  match s.toList with
  | 'r' :: '#' :: rest => String.ofList rest
  | _ => s

end Beans.Declaration
