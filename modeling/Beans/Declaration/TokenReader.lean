import Beans.Declaration.Token
import Beans.Text.Debug
/-!
# Readers of tokens

A reader takes tokens from the front of a list and writes the text of what it has taken. Commas divide
the arguments of attributes, so a reader finds at the end of a list what it finds in front of a comma, and
the other way round: this is part of the type, by `TokenReader.read_followedBy`, and an argument that reads
well among others reads well alone. Inside of a group nothing follows, so what reads a group may ask where
it ends.
-/

set_option autoImplicit false

namespace Beans.Declaration

/-! ### Errors -/

inductive TokenError where
  /-- None of what was wanted stands in a place, which may be the end. -/
  | expected (isEnd : Bool) (wanted : List String)
  | expectedMark (mark : String)
  /-- A keyword stands in the place of a name. -/
  | keyword (name : String)
  /-- Something is left in a group. -/
  | leftover (delimiter : Delimiter)
  | expectedSemicolon
  | chainedComparisons
  /-- A cast is followed by something that binds tighter. -/
  | afterCast (what : String)
  /-- Only lifetimes stand where traits are wanted. -/
  | noTrait (isOpaque : Bool)
  /-- A loop with a label follows the word that leaves a loop. -/
  | labelWithoutParentheses
  | number (e : IntTextError)
  | attributeInAttribute
  | attributesOnRange
  /-- A range in the pattern of a list has no start or no end. -/
  | openRange
  /-- What is captured is listed among bounds that capture nothing. -/
  | capture
  /-- A bound is constant where bounds are not. -/
  | constantBound (isConditional : Bool)
  | unreadable
  /-- Groups, types or expressions are nested deeper than can be read. -/
  | tooDeep
deriving DecidableEq, Repr

namespace TokenError

def alternatives : List String → String
  | [a, b] => s!"{a} or {b}"
  | [a] => a
  | wanted => "one of: " ++ Text.commas wanted

def message : TokenError → String
  | expected isEnd wanted =>
    (if isEnd then "unexpected end of input, " else "") ++ "expected " ++ alternatives wanted
  | expectedMark mark => s!"expected `{mark}`"
  | keyword name => s!"expected identifier, found keyword `{name}`"
  | leftover delimiter => s!"unexpected token, expected `{delimiter.closing}`"
  | expectedSemicolon => "unexpected token, expected `;`"
  | chainedComparisons => "comparison operators cannot be chained"
  | afterCast what => s!"casts cannot be followed by {what}"
  | noTrait isOpaque =>
    if isOpaque then "at least one trait must be specified"
    else "at least one trait is required for an object type"
  | labelWithoutParentheses => "parentheses required"
  | number e => e.message
  | attributeInAttribute => "unexpected attribute inside of attribute"
  | attributesOnRange => "attributes are not allowed on range expressions starting with `..`"
  | openRange => "range pattern is not allowed unparenthesized inside slice pattern"
  | capture => "`use<...>` precise capturing syntax is not allowed here"
  | constantBound isConditional =>
    if isConditional then "`[const]` is not allowed here" else "`const` is not allowed here"
  | unreadable => "cannot parse string into token stream"
  | tooDeep => "nesting is too deep"

end TokenError

/-! ### Readers -/

structure Cursor where
  rest : List Token
  /-- The text of what was taken. -/
  written : String := ""
  /-- The delimiters of the first group in which something was left. -/
  leftover : Option Delimiter := none

namespace Cursor

variable {s t u : Cursor} {isJoint : Bool} {more : List Token}

/-- The place with a comma and more tokens behind the last one. -/
def followedBy (s : Cursor) (isJoint : Bool) (more : List Token) : Cursor :=
  { s with rest := s.rest ++ .mark ',' isJoint :: more }

theorem followedBy_inj : s.followedBy isJoint more = t.followedBy isJoint more ↔ s = t := by
  constructor
  · intro h
    obtain ⟨rest, written, leftover⟩ := s
    obtain ⟨rest', written', leftover'⟩ := t
    simp only [followedBy, mk.injEq, List.append_left_inj] at h ⊢
    exact h
  · rintro rfl
    rfl

def behind (s : Cursor) (t : Token) (rest : List Token) : Cursor :=
  { s with rest, written := s.written ++ t.text }

/-- The second place comes after the first one: some tokens were taken in between, and of what was left in
a group nothing is forgotten. -/
structure Precedes (s t : Cursor) : Prop where
  suffix : t.rest <:+ s.rest
  leftover : ∀ d, s.leftover = some d → t.leftover = some d

namespace Precedes

theorem refl (s : Cursor) : s.Precedes s :=
  ⟨List.suffix_rfl, fun _ => id⟩

theorem trans (h : s.Precedes t) (h' : t.Precedes u) : s.Precedes u :=
  ⟨h'.suffix.trans h.suffix, fun d hd => h'.leftover d (h.leftover d hd)⟩

/-- What comes before a place that a comma follows is followed by the comma as well. -/
theorem exists_followedBy (h : s.Precedes (t.followedBy isJoint more)) :
    ∃ s' : Cursor, s = s'.followedBy isJoint more := by
  obtain ⟨front, hfront⟩ := h.suffix
  refine ⟨{ s with rest := front ++ t.rest }, ?_⟩
  obtain ⟨rest, written, leftover⟩ := s
  simp only [followedBy, mk.injEq, List.append_assoc, and_true] at hfront ⊢
  exact hfront.symm

end Precedes

theorem precedes_behind {t : Token} {rest : List Token} (h : s.rest = t :: rest) :
    s.Precedes (s.behind t rest) :=
  ⟨h ▸ List.suffix_cons t rest, fun _ => id⟩

end Cursor

/-- What reads the content of a group. -/
abbrev ContentReader := StateT Cursor (Except TokenError)

/-- What reads tokens, and does the same in front of a comma as at the end. -/
structure TokenReader (α : Type) where
  read : Cursor → Except TokenError (α × Cursor)
  read_precedes : ∀ {s t : Cursor} {a : α}, read s = .ok (a, t) → s.Precedes t
  read_followedBy : ∀ {s t : Cursor} {a : α} (isJoint : Bool) (more : List Token),
    read (s.followedBy isJoint more) = .ok (a, t.followedBy isJoint more) ↔ read s = .ok (a, t)

namespace TokenReader

variable {α β : Type}

instance : Monad TokenReader where
  pure a := {
    read s := .ok (a, s)
    read_precedes := by
      intro s t b h
      cases h
      exact .refl s
    read_followedBy := by
      intro s t b isJoint more
      simp [Cursor.followedBy_inj] }
  bind p f := {
    read s := match p.read s with
      | .ok (a, t) => (f a).read t
      | .error e => .error e
    read_precedes := by
      intro s u b h
      split at h
      · next a t hp => exact (p.read_precedes hp).trans ((f a).read_precedes h)
      · cases h
    read_followedBy := by
      intro s u b isJoint more
      constructor
      · intro h
        split at h
        · next a t hp =>
          obtain ⟨t, rfl⟩ := ((f a).read_precedes h).exists_followedBy
          rw [(p.read_followedBy isJoint more).mp hp]
          exact ((f a).read_followedBy isJoint more).mp h
        · cases h
      · intro h
        split at h
        · next a t hp =>
          rw [(p.read_followedBy isJoint more).mpr hp]
          exact ((f a).read_followedBy isJoint more).mpr h
        · cases h }

instance : MonadLift TokenReader ContentReader where
  monadLift p := p.read

def fail (e : TokenError) : TokenReader α where
  read _ := .error e
  read_precedes := nofun
  read_followedBy := by simp

def ofExcept : Except TokenError α → TokenReader α
  | .ok a => pure a
  | .error e => fail e

def expected (wanted : List String) : TokenReader α where
  read s := .error (.expected s.rest.isEmpty wanted)
  read_precedes := nofun
  read_followedBy := by simp

/-! ### Looking ahead -/

def upToComma : Nat → List Token → List Token
  | 0, _ | _, [] => []
  | n + 1, t :: rest => if t.isComma then [] else t :: upToComma n rest

theorem upToComma_append_comma (n : Nat) (tokens more : List Token) (isJoint : Bool) :
    upToComma n (tokens ++ .mark ',' isJoint :: more) = upToComma n tokens := by
  induction tokens generalizing n with
  | nil => cases n <;> simp [upToComma, Token.isComma, Token.isMark]
  | cons t rest ih => cases n <;> simp [upToComma, ih]

/-- The next tokens, of which four are enough for any decision, up to a comma. -/
def ahead : TokenReader (List Token) where
  read s := .ok (upToComma 4 s.rest, s)
  read_precedes := by
    intro s t a h
    cases h
    exact .refl s
  read_followedBy := by
    intro s t a isJoint more
    simp only [Except.ok.injEq, Prod.mk.injEq, Cursor.followedBy_inj]
    simp only [Cursor.followedBy, upToComma_append_comma]

def sees (test : List Token → Bool) : TokenReader Bool := do
  return test (← ahead)

def seesEnd : TokenReader Bool :=
  sees List.isEmpty

/-! ### Taking tokens -/

/-- Takes a token that is accepted. Where it is not, it is said why, be that another token or the end. -/
def takeOr (accept : Token → Option α) (error : Bool → TokenError) : TokenReader α where
  read s := match s.rest with
    | [] => .error (error true)
    | t :: rest =>
      match accept t with
      | some a => .ok (a, s.behind t rest)
      | none => .error (error false)
  read_precedes := by
    intro s u a h
    split at h
    · cases h
    · next t rest hrest =>
      split at h
      · cases h
        exact Cursor.precedes_behind hrest
      · cases h
  read_followedBy := by
    intro s u a isJoint more
    obtain ⟨rest, written, leftover⟩ := s
    cases rest with
    | nil =>
      simp only [Cursor.followedBy, Cursor.behind, List.nil_append, reduceCtorEq, iff_false]
      intro h
      split at h
      · have hrest := congrArg (·.rest.length) (Prod.mk.inj (Except.ok.inj h)).2
        simp at hrest
        omega
      · cases h
    | cons t rest =>
      simp only [Cursor.followedBy, Cursor.behind, List.cons_append]
      cases accept t with
      | none => simp
      | some b =>
        obtain ⟨rest', written', leftover'⟩ := u
        simp

def take (accept : Token → Option α) (wanted : String) : TokenReader α :=
  takeOr accept fun isEnd => .expected isEnd [wanted]

def skip : TokenReader Unit :=
  take (fun _ => some ()) "token"

def comma? (t : Token) : Option Unit :=
  if t.isComma then some () else none

def comma : TokenReader Unit :=
  takeOr comma? fun _ => .expectedMark ","

/-- Takes a comma where something else would do. -/
def commaAmong (wanted : String) : TokenReader Unit :=
  take comma? wanted

/-! ### Texts -/

def write (text : String) : TokenReader Unit where
  read s := .ok ((), { s with written := s.written ++ text })
  read_precedes := by
    intro s t a h
    cases h
    exact ⟨List.suffix_rfl, fun _ => id⟩
  read_followedBy := by
    intro s t a isJoint more
    obtain ⟨rest, written, leftover⟩ := s
    obtain ⟨rest', written', leftover'⟩ := t
    simp [Cursor.followedBy]

/-- Keeps what was read from being written, and returns its text without blanks. -/
def withText (p : TokenReader α) : TokenReader (α × String) where
  read s := match p.read { s with written := "" } with
    | .ok (a, t) => .ok ((a, Token.compact t.written), { t with written := s.written })
    | .error e => .error e
  read_precedes := by
    intro s u a h
    split at h
    · next a t hp =>
      cases h
      exact ⟨(p.read_precedes hp).suffix, (p.read_precedes hp).leftover⟩
    · cases h
  read_followedBy := by
    intro s u a isJoint more
    constructor
    · intro h
      split at h
      · next b t hp =>
        obtain ⟨rest, written, leftover⟩ := t
        obtain ⟨rest', written', leftover'⟩ := u
        simp only [Except.ok.injEq, Prod.mk.injEq, Cursor.followedBy, Cursor.mk.injEq] at h
        obtain ⟨rfl, rfl, rfl, rfl⟩ := h
        have hread : p.read { s with written := "" } = .ok (b, ⟨rest', written, leftover⟩) :=
          (p.read_followedBy isJoint more).mp hp
        rw [hread]
      · cases h
    · intro h
      split at h
      · next b t hp =>
        cases h
        have hread := (p.read_followedBy isJoint more).mpr hp
        simp only [Cursor.followedBy] at hread ⊢
        rw [hread]
      · cases h

def captured (p : TokenReader α) : TokenReader (α × String) := do
  let (a, text) ← withText p
  write text
  return (a, text)

def textOf (p : TokenReader α) : TokenReader String :=
  Prod.snd <$> captured p

def whole (p : TokenReader α) (tokens : List Token) : Except TokenError α :=
  match p.read { rest := tokens } with
  | .ok (a, { rest := [], leftover, .. }) =>
    match leftover with
    | none => .ok a
    | some delimiter => .error (.leftover delimiter)
  | .ok _ => .error (.expectedMark ",")
  | .error e => .error e

/-! ### Groups -/

/-- Reads the content of a group in delimiters. If something is left there, this is noted. -/
def group (delimiter : Delimiter) (content : ContentReader α) : TokenReader α where
  read s := match s.rest with
    | .group d tokens :: rest =>
      if d = delimiter then
        match content { rest := tokens } with
        | .ok (a, t) =>
          .ok (a, {
            rest
            written := s.written ++ String.singleton d.opening ++ t.written ++ String.singleton d.closing
            leftover := s.leftover.or (t.leftover.or (if t.rest.isEmpty then none else some d)) })
        | .error e => .error e
      else .error (.expected false [delimiter.name])
    | rest => .error (.expected rest.isEmpty [delimiter.name])
  read_precedes := by
    intro s u a h
    split at h
    · next d tokens rest hrest =>
      split at h
      · split at h
        · cases h
          refine ⟨hrest ▸ List.suffix_cons _ rest, fun d hd => ?_⟩
          simp [hd]
        · cases h
      · cases h
    · cases h
  read_followedBy := by
    intro s u a isJoint more
    obtain ⟨rest, written, leftover⟩ := s
    obtain ⟨rest', written', leftover'⟩ := u
    cases rest with
    | nil => simp [Cursor.followedBy]
    | cons t rest =>
      cases t with
      | group d tokens =>
        simp only [Cursor.followedBy, List.cons_append]
        split
        · split <;> simp
        · simp
      | _ => simp [Cursor.followedBy]

/-! ### Loops -/

/-- Repeats a step on a value as long as it asks for it. A step that goes on has to take a token. -/
def iterate (step : α → ContentReader (α × Bool)) : Nat → α → ContentReader α
  | 0, _, _ => .error .tooDeep
  | fuel + 1, a, s =>
    match step a s with
    | .ok ((a, isGoingOn), t) =>
      if isGoingOn then
        if t.rest.length < s.rest.length then iterate step fuel a t else .error .tooDeep
      else .ok (a, t)
    | .error e => .error e

section Iterate

variable {step : α → TokenReader (α × Bool)} {n m : Nat} {a b : α} {s t : Cursor}

theorem iterate_precedes (h : iterate (fun a => (step a).read) n a s = .ok (b, t)) :
    s.Precedes t := by
  induction n generalizing a s with
  | zero => cases h
  | succ n ih =>
    unfold iterate at h
    split at h
    · next c isGoingOn u hstep =>
      have hfirst := (step a).read_precedes hstep
      split at h
      · split at h
        · exact hfirst.trans (ih h)
        · cases h
      · cases h
        exact hfirst
    · cases h

/-- Since each step takes a token, the number of steps is bounded by that of tokens in front of a comma as
well as at the end. -/
theorem iterate_followedBy {isJoint : Bool} {more : List Token} (hn : s.rest.length < n)
    (hm : s.rest.length < m) :
    iterate (fun a => (step a).read) m a (s.followedBy isJoint more) =
        .ok (b, t.followedBy isJoint more) ↔
      iterate (fun a => (step a).read) n a s = .ok (b, t) := by
  induction n generalizing a s m with
  | zero => omega
  | succ n ih =>
    obtain ⟨m, rfl⟩ : ∃ k, m = k + 1 := ⟨m - 1, by omega⟩
    cases hstep : (step a).read s with
    | ok r =>
      obtain ⟨⟨c, isGoingOn⟩, u⟩ := r
      have hstep' := ((step a).read_followedBy isJoint more).mpr hstep
      have hlength : (u.followedBy isJoint more).rest.length <
          (s.followedBy isJoint more).rest.length ↔ u.rest.length < s.rest.length := by
        simp [Cursor.followedBy]
      simp only [iterate, hstep, hstep', hlength]
      cases isGoingOn with
      | false => simp [Cursor.followedBy_inj]
      | true =>
        by_cases hless : u.rest.length < s.rest.length
        · simp only [hless, if_true]
          exact ih (by omega) (by omega)
        · simp [hless]
    | error e =>
      simp only [iterate, hstep, reduceCtorEq, iff_false]
      intro h
      split at h
      · next c isGoingOn u hstep' =>
        have hbefore : u.Precedes (t.followedBy isJoint more) := by
          split at h
          · split at h
            · exact iterate_precedes h
            · cases h
          · cases h
            exact .refl _
        obtain ⟨u, rfl⟩ := hbefore.exists_followedBy
        cases hstep.symm.trans (((step a).read_followedBy isJoint more).mp hstep')
      · cases h

end Iterate

/-- Repeats a step on a value as long as it asks for it. Each step takes a token, so as many steps as
there are tokens are enough. -/
def repeatFrom (a : α) (step : α → TokenReader (α × Bool)) : TokenReader α where
  read s := iterate (fun a => (step a).read) (s.rest.length + 1) a s
  read_precedes := iterate_precedes
  read_followedBy := by
    intro s t b isJoint more
    apply iterate_followedBy
    · omega
    · simp only [Cursor.followedBy, List.length_append]
      omega

def repeating (step : TokenReader Bool) : TokenReader Unit :=
  repeatFrom () fun _ => return ((), ← step)

end TokenReader

namespace ContentReader

open TokenReader

def atEnd : ContentReader Bool := fun s =>
  .ok (s.rest.isEmpty, s)

def repeating (step : ContentReader Bool) : ContentReader Unit := fun s =>
  iterate (fun _ => return ((), ← step)) (s.rest.length + 1) () s

/-- Reads items with commas between them, and perhaps one behind the last. -/
def items (item : ContentReader Unit) : ContentReader Unit :=
  repeating do
    if ← atEnd then return false
    item
    if ← atEnd then return false
    comma
    return true

end ContentReader

end Beans.Declaration
