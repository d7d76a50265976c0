import Beans.Declaration.Basic
import Beans.Declaration.Grammar.Nested
/-!
# Arguments of attributes

What the arguments of an attribute say is read from its tokens, one argument after the other with commas
between them. Reading stops at the first argument that is not well formed, and those before it still
count. An argument that is read alone is read in the same way among others.
-/

set_option autoImplicit false

namespace Beans.Declaration

open TokenReader

/-! ### Lists of arguments -/

/-- The arguments that were read, and why there are no more if that is not the end. -/
structure ReadArguments (α : Type) where
  arguments : List α
  error : Option TokenError
deriving DecidableEq, Repr

namespace ReadArguments

variable {α : Type}

def cons (a : α) (r : ReadArguments α) : ReadArguments α :=
  { r with arguments := a :: r.arguments }

/-- At the end of the tokens, what was left in some group comes to light. -/
def ended (s : Cursor) : ReadArguments α :=
  ⟨[], s.leftover.map .leftover⟩

/-- Reads arguments one by one. Each takes a token, so as many steps as there are tokens are enough. -/
def readFrom (argument : TokenReader α) : Nat → Cursor → ReadArguments α
  | 0, _ => ⟨[], some .tooDeep⟩
  | fuel + 1, s =>
    if s.rest.isEmpty then ended s
    else
      match argument.read s with
      | .error e => ⟨[], some e⟩
      | .ok (a, s) =>
        cons a <| match s.rest with
        | [] => ended s
        | t :: rest =>
          if t.isComma then readFrom argument fuel { rest, leftover := s.leftover }
          else ⟨[], some (.expectedMark ",")⟩

def ofTokens (argument : TokenReader α) (tokens : List Token) : ReadArguments α :=
  readFrom argument (tokens.length + 1) { rest := tokens }

/-- Whether some tokens are an argument on their own: nothing is left of them. -/
def IsArgument (argument : TokenReader α) (tokens : List Token) (a : α) : Prop :=
  ∃ written, argument.read { rest := tokens } = .ok (a, { rest := [], written })

/-- An argument comes first wherever it stands in front of a comma. -/
theorem readFrom_followedBy {argument : TokenReader α} {tokens : List Token} {a : α}
    (h : IsArgument argument tokens a) (fuel : Nat) (isJoint : Bool) (more : List Token) :
    readFrom argument (fuel + 1) { rest := tokens ++ .mark ',' isJoint :: more } =
      cons a (readFrom argument fuel { rest := more }) := by
  obtain ⟨written, h⟩ := h
  have h' := (argument.read_followedBy isJoint more).mpr h
  simp only [Cursor.followedBy, List.nil_append] at h'
  simp [readFrom, h', Token.isComma, Token.isMark]

end ReadArguments

/-! ### Arguments -/

inductive BeanArgument where
  | accessor (kind : String)
  | isMutable
  | isAutoRegistered
  | schema (path : String)
  | derived (declaration : DerivedDeclaration String String)
  | attached (expression : String)
  | unknown
deriving DecidableEq, Repr

inductive PropertyArgument where
  | get (style : String)
  | validate (check : String)
  | attached (expression : String)
  | unknown
deriving DecidableEq, Repr

def textValue : TokenReader String := do
  mark "="
  string

def expressionText : TokenReader String :=
  textOf (grammar.expression true)

/-- A derived property: its name, its type, and the path of what computes it. -/
def derivedDeclaration : ContentReader (DerivedDeclaration String String) := do
  let name ← name
  mark ":"
  let type ← textOf (grammar.type true)
  mark "="
  let compute ← textOf do
    let _ ← grammar.attributes
    grammar.qualifiedPath true
  return { name, type, compute }

def BeanArgument.reader : TokenReader BeanArgument := do
  if ← acceptMark "@" then return .attached (← expressionText)
  match ← name with
  | "mutable" => return .isMutable
  | "auto_register" => return .isAutoRegistered
  | "accessor" => return .accessor (← textValue)
  | "schema" =>
    mark "="
    return .schema (← textOf (grammar.path false))
  | "derived" => return .derived (← group .parentheses derivedDeclaration)
  | _ => return .unknown

def PropertyArgument.reader : TokenReader PropertyArgument := do
  if ← acceptMark "@" then return .attached (← expressionText)
  match ← name with
  | "get" => return .get (← textValue)
  | "validate" => return .validate (← textValue)
  | _ => return .unknown

end Beans.Declaration
