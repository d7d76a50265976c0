import Beans.Manifest
import Mathlib.Data.List.TakeWhile
/-!
# Texts that are words

A text of the characters of identifiers is one word for those who read it as tokens, if it starts like one.
Else it is no word at all: it starts with a number, or it has no tokens.
-/

set_option autoImplicit false

namespace Beans.Declaration

open Text

/-! ### Characters -/

def separatorCodes : List Nat :=
  List.range' 9 5 ++ List.range' 0x2000 11 ++
    [32, 0x85, 0xa0, 0x1680, 0x2028, 0x2029, 0x202f, 0x205f, 0x3000, 0x200e, 0x200f, 0xfeff] ++
    "~!@#$%^&*-=+|;:,<.>/?'\"()[]\x7b\x7d".toList.map (·.toNat)

variable {c : Char} {chars : List Char}

theorem not_mem_separatorCodes (h : isIdentPart c) : c.toNat ∉ separatorCodes := by
  have hall : ∀ n ∈ separatorCodes, isIdentPart (Char.ofNat n) = false := by decide +kernel
  intro hmem
  have hc := hall c.toNat hmem
  rw [Char.ofNat_toNat] at hc
  cases h.symm.trans hc

theorem isBlank_eq_false (h : isIdentPart c) : isBlank c = false := by
  cases hblank : isBlank c with
  | false => rfl
  | true =>
    simp only [isBlank, Bool.or_eq_true, Bool.and_eq_true, decide_eq_true_eq, beq_iff_eq] at hblank
    refine absurd ?_ (not_mem_separatorCodes h)
    simp only [separatorCodes, List.mem_append, List.mem_range'_1, List.mem_cons]
    omega

theorem ne_of_mem_separatorCodes (h : isIdentPart c) {d : Char} (hd : d.toNat ∈ separatorCodes) :
    c ≠ d := by
  rintro rfl
  exact not_mem_separatorCodes h hd

theorem isDigit_eq_false (h : isIdentStart c) : c.isDigit = false := by
  have hall : ∀ n ∈ List.range' 48 10, isIdentStart (Char.ofNat n) = false := by decide
  cases hdigit : c.isDigit with
  | false => rfl
  | true =>
    change (decide (c.val ≥ '0'.val) && decide (c.val ≤ '9'.val)) = true at hdigit
    simp only [Bool.and_eq_true, decide_eq_true_eq, ge_iff_le, UInt32.le_iff_toNat_le] at hdigit
    have hbounds : 48 ≤ c.toNat ∧ c.toNat ≤ 57 := hdigit
    have hmem : c.toNat ∈ List.range' 48 10 := List.mem_range'_1.mpr (by omega)
    have hc := hall c.toNat hmem
    rw [Char.ofNat_toNat] at hc
    cases h.symm.trans hc

theorem compact_eq_self {s : String} (h : ∀ c ∈ s.toList, isBlank c = false) :
    Token.compact s = s := by
  have hkept : ∀ c ∈ s.toList, !isBlank c := by
    intro c hc
    rw [h c hc]
    rfl
  rw [Token.compact, List.filter_eq_self.mpr hkept, String.ofList_toList]

/-! ### Characters at the front of a text -/

theorem gap?_eq_none (hblank : isBlank c = false) (hstroke : c ≠ '/') (hright : c.toNat ≠ 0x200e)
    (hleft : c.toNat ≠ 0x200f) : Token.gap? (c :: chars) = none := by
  unfold Token.gap?
  simp [hstroke, hright, hleft, hblank]

theorem gap?_eq_none_of_isIdentPart (h : isIdentPart c) : Token.gap? (c :: chars) = none := by
  apply gap?_eq_none (isBlank_eq_false h)
  · exact ne_of_mem_separatorCodes h (by decide)
  · exact fun hc => not_mem_separatorCodes h (hc ▸ by decide)
  · exact fun hc => not_mem_separatorCodes h (hc ▸ by decide)

theorem startsWithMark_eq_false (h : isIdentPart c) : Token.startsWithMark (c :: chars) = false := by
  have hmarks : "~!@#$%^&*-=+|;:,<.>/?'".toList.all (·.toNat ∈ separatorCodes) := by decide
  have hstroke : c ≠ '/' := ne_of_mem_separatorCodes h (by decide)
  unfold Token.startsWithMark
  split
  · next heq => exact absurd (List.cons.inj heq).1 hstroke
  · next heq => exact absurd (List.cons.inj heq).1 hstroke
  · next heq =>
    obtain ⟨rfl, -⟩ := List.cons.inj heq
    rw [← Bool.not_eq_true, List.contains_iff_mem]
    intro hmem
    exact not_mem_separatorCodes h (of_decide_eq_true (List.all_eq_true.mp hmarks _ hmem))
  · rfl

theorem ofOpening?_eq_none (h : isIdentPart c) : Delimiter.ofOpening? c = none := by
  unfold Delimiter.ofOpening?
  rw [List.find?_eq_none]
  intro d _ hd
  refine ne_of_mem_separatorCodes h ?_ (of_decide_eq_true hd).symm
  cases d <;> decide

theorem ofClosing?_eq_none (h : isIdentPart c) : Delimiter.ofClosing? c = none := by
  unfold Delimiter.ofClosing?
  rw [List.find?_eq_none]
  intro d _ hd
  refine ne_of_mem_separatorCodes h ?_ (of_decide_eq_true hd).symm
  cases d <;> decide

theorem raw?_eq_none {f : LiteralKind.QuotedForm} (h : ∀ c ∈ chars, isIdentPart c) :
    LiteralKind.raw? f chars = none := by
  cases chars with
  | nil => rfl
  | cons c chars =>
    have hc := h c List.mem_cons_self
    have hhash : c ≠ '#' := ne_of_mem_separatorCodes hc (by decide)
    have hquote : c ≠ '"' := ne_of_mem_separatorCodes hc (by decide)
    simp [LiteralKind.raw?, hhash, hquote]

theorem quotedKind?_eq_none (h : ∀ c ∈ chars, isIdentPart c) :
    LiteralKind.quotedKind? chars = none := by
  have hquote : '"' ∉ chars := fun hmem => ne_of_mem_separatorCodes (h _ hmem) (by decide) rfl
  have hsingle : '\'' ∉ chars := fun hmem => ne_of_mem_separatorCodes (h _ hmem) (by decide) rfl
  have hraw (front : List Char) {f : LiteralKind.QuotedForm} {rest : List Char}
      (hrest : chars = front ++ rest) : LiteralKind.raw? f rest = none :=
    raw?_eq_none fun c hc => h c (hrest ▸ List.mem_append_right front hc)
  unfold LiteralKind.quotedKind?
  simp only
  split
  · simp at hquote
  · rw [hraw ['r'] rfl]
    rfl
  · simp at hquote
  · rw [hraw ['b', 'r'] rfl]
    rfl
  · simp at hsingle
  · simp at hquote
  · rw [hraw ['c', 'r'] rfl]
    rfl
  · simp at hsingle
  · rfl

theorem read?_eq_none (h : ∀ c ∈ chars, isIdentPart c) (hstart : chars.head?.any isIdentStart) :
    LiteralKind.read? chars = none := by
  cases chars with
  | nil => cases hstart
  | cons c chars =>
    have hdigit : c.isDigit = false := isDigit_eq_false (by simpa using hstart)
    have hfloat : LiteralKind.float? (c :: chars) = none := by
      simp [LiteralKind.float?, hdigit]
    have hinteger : LiteralKind.integer? (c :: chars) = none := by
      have hzero : c ≠ '0' := by
        rintro rfl
        cases hdigit
      unfold LiteralKind.integer?
      simp [hzero, hdigit]
    unfold LiteralKind.read?
    rw [quotedKind?_eq_none h, hfloat, hinteger]
    rfl

theorem spanWord?_eq (h : ∀ c ∈ chars, isIdentPart c) (hstart : chars.head?.any isIdentStart) :
    spanWord? chars = some (String.ofList chars, []) := by
  unfold spanWord?
  rw [if_pos hstart, List.takeWhile_eq_self_iff.mpr h, List.dropWhile_eq_nil_iff.mpr h]

theorem word?_eq (h : ∀ c ∈ chars, isIdentPart c) (hstart : chars.head?.any isIdentStart) :
    Token.word? chars = some (.word false (String.ofList chars), []) := by
  have hopening : ∀ opening ∈ ["r\"", "r#\"", "r##", "b\"", "b'", "br\"", "br#", "c\"", "cr\"", "cr#"],
      opening.toList.isPrefixOf chars = false := by
    intro opening hmem
    have hseparator : opening.toList.any (·.toNat ∈ separatorCodes) := by
      revert opening
      decide
    obtain ⟨d, hd, hseparator⟩ := List.any_eq_true.mp hseparator
    rw [← Bool.not_eq_true, List.isPrefixOf_iff_prefix]
    intro hfront
    exact not_mem_separatorCodes (h d (List.IsPrefix.subset hfront hd)) (of_decide_eq_true hseparator)
  have hraw : ∀ rest, chars ≠ 'r' :: '#' :: rest := by
    rintro rest rfl
    exact ne_of_mem_separatorCodes (h '#' (by simp)) (by decide) rfl
  unfold Token.word?
  rw [if_neg]
  · split
    · exact absurd rfl (hraw _)
    · rw [spanWord?_eq h hstart]
      rfl
  · rw [Bool.not_eq_true, List.any_eq_false]
    intro opening hmem
    rw [hopening opening hmem]
    exact Bool.false_ne_true

theorem leaf?_eq (h : ∀ c ∈ chars, isIdentPart c) (hstart : chars.head?.any isIdentStart) :
    Token.leaf? chars = some (.word false (String.ofList chars), []) := by
  cases chars with
  | nil => cases hstart
  | cons c chars =>
    unfold Token.leaf?
    rw [read?_eq_none h hstart, startsWithMark_eq_false (h c List.mem_cons_self)]
    exact word?_eq h hstart

/-! ### Tokens -/

theorem readAll_nil (n : Nat) (tokens : List Token) :
    Token.readAll n [] tokens [] = some tokens.reverse := by
  cases n <;> rfl

theorem readAll_cons (n : Nat) (groups : List Token.OpenGroup) (tokens : List Token)
    (hc : isIdentPart c) (chars : List Char) :
    Token.readAll (n + 1) groups tokens (c :: chars) =
      (Token.leaf? (c :: chars)).bind fun r => Token.readAll n groups (r.1 :: tokens) r.2 := by
  simp only [Token.readAll, gap?_eq_none_of_isIdentPart hc, ofOpening?_eq_none hc,
    ofClosing?_eq_none hc]
  cases Token.leaf? (c :: chars) <;> rfl

theorem readAll_word {n : Nat} {tokens : List Token} (h : ∀ c ∈ chars, isIdentPart c)
    (hstart : chars.head?.any isIdentStart) (hn : chars.length ≤ n) :
    Token.readAll n [] tokens chars =
      some (tokens.reverse ++ [.word false (String.ofList chars)]) := by
  cases chars with
  | nil => cases hstart
  | cons c chars =>
    rw [List.length_cons] at hn
    obtain ⟨n, rfl⟩ : ∃ k, n = k + 1 := ⟨n - 1, by omega⟩
    rw [readAll_cons n [] tokens (h c List.mem_cons_self), leaf?_eq h hstart, Option.bind_some,
      readAll_nil, List.reverse_cons]

theorem ofText?_eq {s : String} (h : ∀ c ∈ s.toList, isIdentPart c) :
    Token.ofText? s = Token.readAll s.toList.length [] [] s.toList := by
  unfold Token.ofText?
  cases hs : s.toList with
  | nil => rfl
  | cons c chars =>
    have hc : c.toNat ≠ 0xfeff := fun hc =>
      not_mem_separatorCodes (h c (hs ▸ List.mem_cons_self)) (hc ▸ by decide)
    simp only [hc, if_false]

theorem ofText?_word {s : String} (h : ∀ c ∈ s.toList, isIdentPart c)
    (hstart : s.toList.head?.any isIdentStart) : Token.ofText? s = some [.word false s] := by
  rw [ofText?_eq h, readAll_word h hstart (Nat.le_refl _), String.ofList_toList]
  rfl

theorem readAll_colon (n : Nat) (tokens : List Token) (chars : List Char) :
    Token.readAll (n + 1) [] tokens (':' :: chars) =
      Token.readAll n []
        (.mark ':' (Token.startsWithMark chars && chars.head? ≠ some ',') :: tokens) chars := by
  have hread : LiteralKind.read? (':' :: chars) = none := by
    simp [LiteralKind.read?, LiteralKind.quotedKind?, LiteralKind.float?, LiteralKind.integer?]
  have hmark : Token.startsWithMark (':' :: chars) = true := by
    simp [Token.startsWithMark]
  have hgap : Token.gap? (':' :: chars) = none :=
    gap?_eq_none rfl (by decide) (by decide) (by decide)
  have hleaf : Token.leaf? (':' :: chars) =
      some (.mark ':' (Token.startsWithMark chars && chars.head? ≠ some ','), chars) := by
    simp [Token.leaf?, hread, hmark]
  have hopening : Delimiter.ofOpening? ':' = none := rfl
  have hclosing : Delimiter.ofClosing? ':' = none := rfl
  simp only [Token.readAll, hgap, hopening, hclosing, hleaf]

theorem ofText?_rooted {s : String} (h : ∀ c ∈ s.toList, isIdentPart c)
    (hstart : s.toList.head?.any isIdentStart) :
    Token.ofText? ("::" ++ s) = some [.mark ':' true, .mark ':' false, .word false s] := by
  have hchars : ("::" ++ s).toList = ':' :: ':' :: s.toList := by
    rw [String.toList_append]
    rfl
  have hsecond : Token.startsWithMark s.toList = false := by
    cases hs : s.toList with
    | nil => rfl
    | cons c chars => exact startsWithMark_eq_false (h c (hs ▸ List.mem_cons_self))
  have hfirst : Token.startsWithMark (':' :: s.toList) = true := by
    simp [Token.startsWithMark]
  have hcolon : ':'.toNat ≠ 0xfeff := by decide
  unfold Token.ofText?
  simp only [hchars, hcolon, if_false, List.length_cons, readAll_colon, hfirst, hsecond,
    readAll_word h hstart (Nat.le_refl _), String.ofList_toList]
  rfl

/-! ### Texts that are no words -/

/-- The tokens that were read before the outermost open group, the last one first. -/
def outermost : List Token.OpenGroup → List Token → List Token
  | [], tokens => tokens
  | g :: groups, _ => outermost groups g.before

theorem outermost_append (groups : List Token.OpenGroup) (more tokens : List Token) :
    (outermost groups tokens).reverse <+: (outermost groups (more ++ tokens)).reverse := by
  cases groups with
  | nil =>
    rw [outermost, outermost, List.reverse_append]
    exact List.prefix_append _ _
  | cons g groups => exact List.prefix_rfl

/-- What was read comes first in the end. -/
theorem prefix_of_readAll {n : Nat} {groups : List Token.OpenGroup} {tokens out : List Token}
    (h : Token.readAll n groups tokens chars = some out) :
    (outermost groups tokens).reverse <+: out := by
  fun_induction Token.readAll n groups tokens chars with
  | case1 => exact (Option.some.inj h) ▸ List.prefix_rfl
  | case2 _ _ _ _ _ _ _ ih => exact ih h
  | case3 _ _ _ _ _ _ _ _ _ ih => exact (outermost_append _ _ _).trans (ih h)
  | case4 _ _ _ _ _ _ _ _ ih => exact ih h
  | case5 _ _ _ _ _ _ g groups _ ih => exact (outermost_append groups [_] g.before).trans (ih h)
  | case8 _ tokens _ _ _ _ groups _ _ _ _ ih =>
    exact (outermost_append groups [_] tokens).trans (ih h)
  | _ => cases h

theorem word?_eq_none (hstart : isIdentStart c = false) : Token.word? (c :: chars) = none := by
  unfold Token.word?
  split
  · next heq =>
    obtain ⟨rfl, -⟩ := List.cons.inj heq
    cases hstart
  · simp [spanWord?, hstart]

theorem exists_literal_of_leaf? (hc : isIdentPart c) (hstart : isIdentStart c = false) {t : Token}
    {rest : List Char} (h : Token.leaf? (c :: chars) = some (t, rest)) :
    ∃ kind text, t = .literal kind text := by
  unfold Token.leaf? at h
  rw [startsWithMark_eq_false hc, word?_eq_none hstart] at h
  split at h
  · cases h
    exact ⟨_, _, rfl⟩
  · cases h

theorem literal_of_ofText? {s : String} (h : ∀ c ∈ s.toList, isIdentPart c)
    (hstart : ¬ s.toList.head?.any isIdentStart) {tokens : List Token}
    (htokens : Token.ofText? s = some tokens) :
    tokens = [] ∨ ∃ kind text more, tokens = .literal kind text :: more := by
  rw [ofText?_eq h] at htokens
  cases hs : s.toList with
  | nil =>
    rw [hs] at htokens
    cases htokens
    exact .inl rfl
  | cons c chars =>
    rw [hs] at h htokens hstart
    have hc := h c List.mem_cons_self
    have hstart : isIdentStart c = false := by simpa using hstart
    rw [List.length_cons, readAll_cons _ _ _ hc] at htokens
    obtain ⟨⟨t, rest⟩, hleaf, htokens⟩ := Option.bind_eq_some_iff.mp htokens
    obtain ⟨kind, text, rfl⟩ := exists_literal_of_leaf? hc hstart hleaf
    obtain ⟨more, rfl⟩ := prefix_of_readAll htokens
    exact .inr ⟨kind, text, more, rfl⟩

/-! ### Paths of words -/

namespace TokenReader

variable {α β : Type} {s t : Cursor} {a : α}

theorem read_bind {p : TokenReader α} (h : p.read s = .ok (a, t)) (f : α → TokenReader β) :
    (p >>= f).read s = (f a).read t := by
  simp only [bind, h]

theorem read_bind_error {p : TokenReader α} {e : TokenError} (h : p.read s = .error e)
    (f : α → TokenReader β) : (p >>= f).read s = .error e := by
  simp only [bind, h]

theorem read_pure (a : α) (s : Cursor) : (pure a : TokenReader α).read s = .ok (a, s) :=
  rfl

theorem read_ahead (s : Cursor) : ahead.read s = .ok (upToComma 4 s.rest, s) :=
  rfl

theorem read_sees (test : List Token → Bool) (s : Cursor) :
    (sees test).read s = .ok (test (upToComma 4 s.rest), s) :=
  rfl

theorem read_anyWord (name written : String) :
    anyWord.read { rest := [.word false name], written } =
      .ok (name, { rest := [], written := written ++ name }) :=
  rfl

theorem read_name {name : String} (h : (Token.word false name).isName) (written : String) :
    TokenReader.name.read { rest := [.word false name], written } =
      .ok (name, { rest := [], written := written ++ name }) := by
  unfold TokenReader.name
  rw [read_bind (read_ahead _)]
  change (if (Token.word false name).isName then _ else _ : TokenReader String).read _ = _
  rw [if_pos h]
  rfl

theorem read_name_error (h : ¬ Ahead.isName (upToComma 4 s.rest)) :
    ∃ e, TokenReader.name.read s = .error e := by
  unfold TokenReader.name
  rw [read_bind (read_ahead s)]
  cases hhead : (upToComma 4 s.rest).head? with
  | none => exact ⟨_, rfl⟩
  | some t =>
    cases t with
    | word isRaw name =>
      have hname : ¬ (Token.word isRaw name).isName := by
        simpa [Ahead.isName, hhead] using h
      simp only [hname]
      exact ⟨_, rfl⟩
    | _ => exact ⟨_, rfl⟩

theorem whole_textOf {p : TokenReader α} {tokens : List Token} {written : String}
    (h : p.read { rest := tokens } = .ok (a, { rest := [], written })) :
    (textOf p).whole tokens = .ok (Token.compact written) := by
  have htext : (withText p).read { rest := tokens } =
      .ok ((a, Token.compact written), { rest := [], written := "" }) := by
    simp only [withText, h]
  have hread : (textOf p).read { rest := tokens } =
      .ok (Token.compact written, { rest := [], written := "" ++ Token.compact written }) :=
    (read_bind (read_bind htext _) _).trans rfl
  unfold whole
  rw [hread]

theorem whole_textOf_error {p : TokenReader α} {tokens : List Token} {e : TokenError}
    (h : p.read { rest := tokens } = .error e) : (textOf p).whole tokens = .error e := by
  have htext : (withText p).read { rest := tokens } = .error e := by
    simp only [withText, h]
  have hread : (textOf p).read { rest := tokens } = .error e :=
    read_bind_error (read_bind_error htext _) _
  unfold whole
  rw [hread]

end TokenReader

open TokenReader

def pathKeywords : List String :=
  ["super", "self", "crate", "try", "Self"]

/-- Whether a text of the characters of identifiers may stand in a path. -/
def isPathWord (s : String) : Bool :=
  s.toList.head?.any Text.isIdentStart && (!Token.keywords.contains s || pathKeywords.contains s)

theorem read_segment {g : Grammar} {name : String} (h : isPathWord name) (written : String) :
    (g.segment false).read { rest := [.word false name], written } =
      .ok ({ name }, { rest := [], written := written ++ name }) := by
  unfold Grammar.segment
  rw [read_bind (read_sees _ _)]
  by_cases hplace : Ahead.anyWord ["super", "self", "crate", "try"] (upToComma 4 [.word false name])
  · rw [if_pos hplace, read_bind (read_anyWord name written)]
    rfl
  · rw [if_neg hplace, read_bind (read_sees _ _)]
    dsimp only
    by_cases hself : Ahead.word "Self" (upToComma 4 [.word false name])
    · rw [if_pos hself, read_bind (read_anyWord name written)]
      rfl
    · have hname : (Token.word false name).isName := by
        obtain ⟨-, hname⟩ := Bool.and_eq_true_iff.mp h
        rcases Bool.or_eq_true_iff.mp hname with hname | hkeyword
        · exact hname
        · exfalso
          have hplaces : ∀ k ∈ ["super", "self", "crate", "try"], name ≠ k := by
            intro k hk hname
            exact hplace (List.any_eq_true.mpr ⟨k, hk, decide_eq_true hname⟩)
          have hself : name ≠ "Self" := fun hname => hself (decide_eq_true hname)
          simp only [pathKeywords, List.contains_iff_mem, List.mem_cons] at hkeyword
          simp_all
      rw [if_neg hself, read_bind (read_name hname written)]
      rfl

theorem read_segment_error {g : Grammar} {s : Cursor}
    (hkeyword : ∀ name ∈ pathKeywords, ¬ Ahead.word name (upToComma 4 s.rest))
    (hname : ¬ Ahead.isName (upToComma 4 s.rest)) : ∃ e, (g.segment false).read s = .error e := by
  have hplace : ¬ Ahead.anyWord ["super", "self", "crate", "try"] (upToComma 4 s.rest) := by
    intro h
    obtain ⟨name, hmem, h⟩ := List.any_eq_true.mp h
    exact hkeyword name (List.mem_append_left ["Self"] hmem) h
  obtain ⟨e, he⟩ := read_name_error hname
  unfold Grammar.segment
  rw [read_bind (read_sees _ _), if_neg hplace, read_bind (read_sees _ _)]
  dsimp only
  rw [if_neg (hkeyword "Self" (by decide))]
  exact ⟨e, read_bind_error he _⟩

theorem read_rooted {g : Grammar} {name : String} (h : isPathWord name) :
    (g.pathOf false).read { rest := [.mark ':' true, .mark ':' false, .word false name] } =
      .ok ({ isRooted := true, segments := [{ name }] }, { rest := [], written := "::" ++ name }) := by
  have hroot : (acceptMark "::").read
      { rest := [.mark ':' true, .mark ':' false, .word false name] } =
      .ok (true, { rest := [.word false name], written := "::" }) := by
    rfl
  unfold Grammar.pathOf
  rw [read_bind hroot, read_bind (read_segment h _)]
  rfl

end Beans.Declaration
