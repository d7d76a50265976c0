import Beans.Proofs.ArgumentLists
import Beans.Proofs.DeclaredNames
import Mathlib.Data.List.Nodup
import Mathlib.Data.List.Perm.Basic
/-!
# Arguments in other groups and another order

What some attributes say depends on their arguments, and neither on how these are distributed over the
attributes nor on their order, but for that of attached values and of derived properties. What may be set
once is set by one argument at most, wherever it stands, so it is read from any order.
-/

set_option autoImplicit false

namespace Beans.Declaration

/-! ### Order -/

/-- Some arguments in another order, in which those of some kinds come one after the other as before. -/
structure Rearranged {α : Type} (kinds : List (α → Bool)) (l l' : List α) : Prop where
  perm : l.Perm l'
  inOrder : ∀ kind ∈ kinds, l.filter kind = l'.filter kind

theorem Rearranged.filterMap_eq {α β : Type} {kinds : List (α → Bool)} {l l' : List α}
    (h : Rearranged kinds l l') {said? : α → Option β} (hkind : (said? · |>.isSome) ∈ kinds) :
    l.filterMap said? = l'.filterMap said? := by
  have hfilter (l : List α) : (l.filter (said? · |>.isSome)).filterMap said? = l.filterMap said? := by
    rw [List.filterMap_filter]
    congr 1
    funext a
    cases h : said? a <;> simp
  rw [← hfilter l, ← hfilter l', h.inOrder _ hkind]

section Adds

variable {σ α β : Type} {accept : σ → α → Reads σ} {kept : σ → List β} {said? : α → Option β}
  {kinds : List (α → Bool)} {l l' : List α} {o p p' : σ}

theorem Adds.perm (hadds : Adds accept kept said?) (h : l.Perm l') (hl : l.foldlM accept o = .ok p)
    (hl' : l'.foldlM accept o = .ok p') : (kept p).Perm (kept p') := by
  rw [hadds.foldlM hl, hadds.foldlM hl']
  exact (h.filterMap said?).append_left (kept o)

theorem Adds.inOrder (hadds : Adds accept kept said?) (h : Rearranged kinds l l')
    (hkind : (said? · |>.isSome) ∈ kinds) (hl : l.foldlM accept o = .ok p)
    (hl' : l'.foldlM accept o = .ok p') : kept p = kept p' := by
  rw [hadds.foldlM hl, hadds.foldlM hl', h.filterMap_eq hkind]

end Adds

theorem eq_of_perm_toList {β : Type} {x y : Option β} (h : x.toList.Perm y.toList) : x = y := by
  cases x with
  | none => cases y with
    | none => rfl
    | some b => exact absurd h.nil_eq (List.cons_ne_nil b []).symm
  | some a => cases y with
    | none => exact absurd h.symm.nil_eq (List.cons_ne_nil a []).symm
    | some b => rw [List.singleton_perm_singleton.mp h]

/-! ### What may be set once -/

/-- Arguments are taken over if they are known and set nothing that is set. -/
structure SetsOnce {σ α κ : Type} (accept : σ → α → Reads σ) (isKnown : α → Prop)
    (setting? : α → Option κ) (isSet : σ → κ → Prop) : Prop where
  accepts : ∀ o a, (∃ o', accept o a = .ok o') ↔ isKnown a ∧ ∀ s ∈ setting? a, ¬ isSet o s
  sets : ∀ o a o', accept o a = .ok o' → ∀ s, isSet o' s ↔ isSet o s ∨ setting? a = some s

namespace SetsOnce

variable {σ α κ : Type} {accept : σ → α → Reads σ} {isKnown : α → Prop} {setting? : α → Option κ}
  {isSet : σ → κ → Prop} {l l' : List α} {o o' : σ}

theorem exists_foldlM_cons {a : α} :
    (∃ o', (a :: l).foldlM accept o = .ok o') ↔
      ∃ next, accept o a = .ok next ∧ ∃ o', l.foldlM accept next = .ok o' := by
  rw [List.foldlM_cons]
  constructor
  · rintro ⟨o', h⟩
    obtain ⟨next, haccept, h⟩ := bind_eq_ok.mp h
    exact ⟨next, haccept, o', h⟩
  · rintro ⟨next, haccept, o', h⟩
    exact ⟨o', bind_eq_ok.mpr ⟨next, haccept, h⟩⟩

theorem exists_foldlM_iff (h : SetsOnce accept isKnown setting? isSet) :
    (∃ o', l.foldlM accept o = .ok o') ↔
      (∀ a ∈ l, isKnown a) ∧ (l.filterMap setting?).Nodup ∧
        ∀ s ∈ l.filterMap setting?, ¬ isSet o s := by
  induction l generalizing o with
  | nil => simp [pure, Except.pure]
  | cons a l ih =>
    have hnext : (∃ o', (a :: l).foldlM accept o = .ok o') ↔
        (∃ next, accept o a = .ok next) ∧ (∀ b ∈ l, isKnown b) ∧ (l.filterMap setting?).Nodup ∧
          ∀ s ∈ l.filterMap setting?, ¬ (isSet o s ∨ setting? a = some s) := by
      rw [exists_foldlM_cons]
      constructor
      · rintro ⟨next, haccept, hl⟩
        have hl := ih.mp hl
        simp only [h.sets o a next haccept] at hl
        exact ⟨⟨next, haccept⟩, hl⟩
      · rintro ⟨⟨next, haccept⟩, hl⟩
        refine ⟨next, haccept, ih.mpr ?_⟩
        simpa only [h.sets o a next haccept] using hl
    rw [hnext, h.accepts]
    cases hs : setting? a with
    | none => simp [hs, and_assoc]
    | some s =>
      -- `s` was not set before, so the others may set what was free before, but for `s` itself
      simp only [List.filterMap_cons, hs, List.forall_mem_cons, List.nodup_cons, Option.mem_def,
        Option.some.injEq, forall_eq', not_or]
      constructor
      · rintro ⟨⟨ha, hfree⟩, hl, hnodup, hfrees⟩
        refine ⟨⟨ha, hl⟩, ⟨?_, hnodup⟩, hfree, ?_⟩
        · intro hmem
          exact (hfrees s hmem).2 rfl
        · intro t ht
          exact (hfrees t ht).1
      · rintro ⟨⟨ha, hl⟩, ⟨hmem, hnodup⟩, hfree, hfrees⟩
        refine ⟨⟨ha, hfree⟩, hl, hnodup, ?_⟩
        intro t ht
        refine ⟨hfrees t ht, ?_⟩
        rintro rfl
        exact hmem ht

theorem isSet_foldlM (h : SetsOnce accept isKnown setting? isSet) (hl : l.foldlM accept o = .ok o')
    (s : κ) : isSet o' s ↔ isSet o s ∨ s ∈ l.filterMap setting? := by
  induction l generalizing o with
  | nil =>
    cases hl
    simp
  | cons a l ih =>
    rw [List.foldlM_cons] at hl
    obtain ⟨next, haccept, hl⟩ := bind_eq_ok.mp hl
    rw [ih hl, h.sets o a next haccept, or_assoc, List.mem_filterMap, List.mem_filterMap]
    simp

theorem isSet_perm (h : SetsOnce accept isKnown setting? isSet) (hperm : l.Perm l') {p p' : σ}
    (hl : l.foldlM accept o = .ok p) (hl' : l'.foldlM accept o = .ok p') (s : κ) :
    isSet p s ↔ isSet p' s := by
  rw [h.isSet_foldlM hl, h.isSet_foldlM hl', (hperm.filterMap setting?).mem_iff]

theorem exists_foldlM_perm (h : SetsOnce accept isKnown setting? isSet) (hperm : l.Perm l')
    (hl : l.foldlM accept o = .ok o') : ∃ o', l'.foldlM accept o = .ok o' := by
  obtain ⟨hknown, hnodup, hfree⟩ := h.exists_foldlM_iff.mp ⟨o', hl⟩
  have hsettings := hperm.filterMap setting?
  refine h.exists_foldlM_iff.mpr ⟨?_, hsettings.nodup hnodup, ?_⟩
  · intro a ha
    exact hknown a (hperm.mem_iff.mpr ha)
  · intro s hs
    exact hfree s (hsettings.mem_iff.mpr hs)

end SetsOnce

/-! ### Arguments of beans -/

inductive BeanSetting where
  | accessor
  | isMutable
  | isAutoRegistered
  | schema
deriving DecidableEq

namespace BeanArgument

/-- What an argument sets that may be set once. -/
def setting? : BeanArgument → Option BeanSetting
  | accessor _ => some .accessor
  | isMutable => some .isMutable
  | isAutoRegistered => some .isAutoRegistered
  | schema _ => some .schema
  | derived _ | attached _ | unknown => none

/-- Whether an argument says something. -/
def IsKnown : BeanArgument → Prop
  | accessor kind => (AccessorKind.ofName? kind).isSome
  | unknown => False
  | isMutable | isAutoRegistered | schema _ | derived _ | attached _ => True

def kind? : BeanArgument → Option AccessorKind
  | accessor kind => AccessorKind.ofName? kind
  | _ => none

def schema? : BeanArgument → Option String
  | schema path => some path
  | _ => none

def attached? : BeanArgument → Option String
  | attached e => some e
  | _ => none

theorem not_isArgument_nil (a : BeanArgument) : ¬ ReadArguments.IsArgument reader [] a := by
  rintro ⟨written, h⟩
  cases h

end BeanArgument

namespace BeanOptions

variable {o o' : BeanOptions} {a : BeanArgument} {l l' : List BeanArgument}

def IsSet (o : BeanOptions) : BeanSetting → Prop
  | .accessor => o.kind.isSome
  | .isMutable => o.isMutable
  | .isAutoRegistered => o.isAutoRegistered
  | .schema => o.schema.isSome

theorem exists_takes_iff :
    (∃ o', o.Takes a o') ↔ a.IsKnown ∧ ∀ s ∈ a.setting?, ¬ o.IsSet s := by
  constructor
  · rintro ⟨o', h⟩
    cases h <;> simp_all [BeanArgument.IsKnown, BeanArgument.setting?, IsSet]
  · rintro ⟨hknown, hfree⟩
    cases a with
    | accessor name =>
      obtain ⟨kind, hkind⟩ := Option.isSome_iff_exists.mp hknown
      exact ⟨_, .accessor hkind (by simpa [IsSet] using hfree .accessor rfl)⟩
    | isMutable => exact ⟨_, .isMutable (by simpa [IsSet] using hfree .isMutable rfl)⟩
    | isAutoRegistered =>
      exact ⟨_, .isAutoRegistered (by simpa [IsSet] using hfree .isAutoRegistered rfl)⟩
    | schema path => exact ⟨_, .schema path (by simpa [IsSet] using hfree .schema rfl)⟩
    | derived d => exact ⟨_, .derived d⟩
    | attached e => exact ⟨_, .attached e⟩
    | unknown => cases hknown

theorem accept_setsOnce :
    SetsOnce accept BeanArgument.IsKnown BeanArgument.setting? BeanOptions.IsSet := by
  constructor
  case accepts =>
    intro o a
    simp only [accept_eq_ok]
    exact exists_takes_iff
  case sets =>
    intro o a o' h s
    cases accept_eq_ok.mp h <;> cases s <;> simp [IsSet, BeanArgument.setting?]

theorem accept_addsKind : Adds accept (·.kind.toList) BeanArgument.kind? := by
  intro o o' a h
  cases accept_eq_ok.mp h <;> simp_all [BeanArgument.kind?]

theorem accept_addsSchema : Adds accept (·.schema.toList) BeanArgument.schema? := by
  intro o o' a h
  cases accept_eq_ok.mp h <;> simp_all [BeanArgument.schema?]

theorem accept_addsAnnotation : Adds accept annotations BeanArgument.attached? := by
  intro o o' a h
  cases accept_eq_ok.mp h <;> simp [BeanArgument.attached?]

theorem foldlM_rearranged (h : Rearranged [(·.attached?.isSome), (·.derived?.isSome)] l l')
    (hl : l.foldlM accept {} = .ok o) : l'.foldlM accept {} = .ok o := by
  obtain ⟨o', hl'⟩ := accept_setsOnce.exists_foldlM_perm h.perm hl
  have hset (s : BeanSetting) : o.IsSet s ↔ o'.IsSet s :=
    accept_setsOnce.isSet_perm h.perm hl hl' s
  have hkind : o.kind = o'.kind := eq_of_perm_toList (accept_addsKind.perm h.perm hl hl')
  have hschema : o.schema = o'.schema := eq_of_perm_toList (accept_addsSchema.perm h.perm hl hl')
  have hannotations : o.annotations = o'.annotations :=
    accept_addsAnnotation.inOrder h (by simp) hl hl'
  have hderived : o.derived = o'.derived := accept_addsDerived.inOrder h (by simp) hl hl'
  have hmutable : o.isMutable = o'.isMutable := Bool.eq_iff_iff.mpr (hset .isMutable)
  have hregistered : o.isAutoRegistered = o'.isAutoRegistered :=
    Bool.eq_iff_iff.mpr (hset .isAutoRegistered)
  obtain rfl : o = o' := by
    cases o
    cases o'
    simp only at hkind hschema hannotations hderived hmutable hregistered
    rw [hkind, hschema, hannotations, hderived, hmutable, hregistered]
  exact hl'

end BeanOptions

/-! ### Arguments of properties -/

inductive PropertySetting where
  | get
  | validate
deriving DecidableEq

namespace PropertyArgument

def setting? : PropertyArgument → Option PropertySetting
  | get _ => some .get
  | validate _ => some .validate
  | attached _ | unknown => none

def IsKnown : PropertyArgument → Prop
  | get style => (GetStyle.ofName? style).isSome
  | validate check => (Check.ofName? check).isSome
  | attached _ => True
  | unknown => False

def style? : PropertyArgument → Option GetStyle
  | get style => GetStyle.ofName? style
  | _ => none

def check? : PropertyArgument → Option Check
  | validate check => Check.ofName? check
  | _ => none

def attached? : PropertyArgument → Option String
  | attached e => some e
  | _ => none

theorem not_isArgument_nil (a : PropertyArgument) : ¬ ReadArguments.IsArgument reader [] a := by
  rintro ⟨written, h⟩
  cases h

end PropertyArgument

namespace PropertyOptions

variable {o o' : PropertyOptions} {a : PropertyArgument} {l l' : List PropertyArgument}

def IsSet (o : PropertyOptions) : PropertySetting → Prop
  | .get => o.getStyle.isSome
  | .validate => o.check.isSome

theorem exists_takes_iff :
    (∃ o', o.Takes a o') ↔ a.IsKnown ∧ ∀ s ∈ a.setting?, ¬ o.IsSet s := by
  constructor
  · rintro ⟨o', h⟩
    cases h <;> simp_all [PropertyArgument.IsKnown, PropertyArgument.setting?, IsSet]
  · rintro ⟨hknown, hfree⟩
    cases a with
    | get name =>
      obtain ⟨style, hstyle⟩ := Option.isSome_iff_exists.mp hknown
      exact ⟨_, .get hstyle (by simpa [IsSet] using hfree .get rfl)⟩
    | validate name =>
      obtain ⟨check, hcheck⟩ := Option.isSome_iff_exists.mp hknown
      exact ⟨_, .validate hcheck (by simpa [IsSet] using hfree .validate rfl)⟩
    | attached e => exact ⟨_, .attached e⟩
    | unknown => cases hknown

theorem accept_setsOnce :
    SetsOnce accept PropertyArgument.IsKnown PropertyArgument.setting? PropertyOptions.IsSet := by
  constructor
  case accepts =>
    intro o a
    simp only [accept_eq_ok]
    exact exists_takes_iff
  case sets =>
    intro o a o' h s
    cases accept_eq_ok.mp h <;> cases s <;> simp [IsSet, PropertyArgument.setting?]

theorem accept_addsStyle : Adds accept (·.getStyle.toList) PropertyArgument.style? := by
  intro o o' a h
  cases accept_eq_ok.mp h <;> simp_all [PropertyArgument.style?]

theorem accept_addsCheck : Adds accept (·.check.toList) PropertyArgument.check? := by
  intro o o' a h
  cases accept_eq_ok.mp h <;> simp_all [PropertyArgument.check?]

theorem accept_addsAnnotation : Adds accept annotations PropertyArgument.attached? := by
  intro o o' a h
  cases accept_eq_ok.mp h <;> simp [PropertyArgument.attached?]

theorem foldlM_rearranged (h : Rearranged [(·.attached?.isSome)] l l')
    (hl : l.foldlM accept {} = .ok o) : l'.foldlM accept {} = .ok o := by
  obtain ⟨o', hl'⟩ := accept_setsOnce.exists_foldlM_perm h.perm hl
  have hstyle : o.getStyle = o'.getStyle := eq_of_perm_toList (accept_addsStyle.perm h.perm hl hl')
  have hcheck : o.check = o'.check := eq_of_perm_toList (accept_addsCheck.perm h.perm hl hl')
  have hannotations : o.annotations = o'.annotations :=
    accept_addsAnnotation.inOrder h (by simp) hl hl'
  obtain rfl : o = o' := by
    cases o
    cases o'
    simp only at hstyle hcheck hannotations
    rw [hstyle, hcheck, hannotations]
  exact hl'

end PropertyOptions

/-! ### Groups and order -/

section Groups

variable {σ α κ : Type} {argument : TokenReader α} {accept : σ → α → Reads σ} {isKnown : α → Prop}
  {setting? : α → Option κ} {isSet : σ → κ → Prop} {name : String} {attributes : List Attribute}
  {l : List α} {o o' : σ}

theorem SetsOnce.exists_listArguments (h : SetsOnce accept isKnown setting? isSet)
    (hargument : ∀ a, ¬ ReadArguments.IsArgument argument [] a)
    (hread : acceptAttributes argument accept name o attributes = .ok o') :
    ∃ l, ListArguments argument name attributes l ∧ (l.filterMap setting?).Nodup := by
  obtain ⟨l, hl⟩ := ListArguments.of_acceptAttributes hread
  rw [hl.acceptAttributes_eq hargument] at hread
  exact ⟨l, hl, (h.exists_foldlM_iff.mp ⟨o', hread⟩).2.1⟩

theorem SetsOnce.acceptAttributes_eq_error (h : SetsOnce accept isKnown setting? isSet)
    (hargument : ∀ a, ¬ ReadArguments.IsArgument argument [] a)
    (hl : ListArguments argument name attributes l) (hrepeated : ¬ (l.filterMap setting?).Nodup) :
    ∃ e, acceptAttributes argument accept name o attributes = .error e := by
  rw [hl.acceptAttributes_eq hargument]
  cases hfold : l.foldlM accept o with
  | error e => exact ⟨e, rfl⟩
  | ok o' => exact absurd (h.exists_foldlM_iff.mp ⟨o', hfold⟩).2.1 hrepeated

end Groups

theorem PropertyOptions.read_eq_ok_some {attributes : List Attribute} {o : PropertyOptions} :
    PropertyOptions.read attributes = .ok (some o) ↔ attributes.any (·.isNamed "property") ∧
      acceptAttributes PropertyArgument.reader accept "property" {} attributes = .ok o := by
  unfold read
  split
  · next hnamed =>
    simp only [hnamed, true_and]
    constructor
    · intro h
      obtain ⟨o', ho', hsome⟩ := map_eq_ok.mp h
      exact Option.some.inj hsome ▸ ho'
    · intro h
      exact map_eq_ok.mpr ⟨o, h, rfl⟩
  · next hnamed => simp [hnamed]

theorem PropertyOptions.read_eq_error {attributes : List Attribute} {e : DeclarationError}
    (hnamed : attributes.any (·.isNamed "property"))
    (h : acceptAttributes PropertyArgument.reader accept "property" {} attributes = .error e) :
    PropertyOptions.read attributes = .error e := by
  rw [read, if_pos hnamed, h]
  rfl

/-- What is read of attributes lists arguments, of which no two set the same thing. Whatever other
attributes list them, in any order that keeps that of attached values and of derived properties, says the
same. Attributes of which two arguments set the same thing are refused. -/
theorem read_regrouped :
    (∀ attributes o, BeanOptions.read attributes = .ok o →
      (∃ l, ListArguments BeanArgument.reader "bean" attributes l ∧ (l.filterMap (·.setting?)).Nodup) ∧
      ∀ l others l', ListArguments BeanArgument.reader "bean" attributes l →
        ListArguments BeanArgument.reader "bean" others l' →
        Rearranged [(·.attached?.isSome), (·.derived?.isSome)] l l' →
        BeanOptions.read others = .ok o) ∧
    (∀ attributes l, ListArguments BeanArgument.reader "bean" attributes l →
      ¬ (l.filterMap (·.setting?)).Nodup → ∃ e, BeanOptions.read attributes = .error e) ∧
    (∀ attributes o, PropertyOptions.read attributes = .ok (some o) →
      (∃ l, ListArguments PropertyArgument.reader "property" attributes l ∧
        (l.filterMap (·.setting?)).Nodup) ∧
      ∀ l others l', ListArguments PropertyArgument.reader "property" attributes l →
        others.any (·.isNamed "property") →
        ListArguments PropertyArgument.reader "property" others l' →
        Rearranged [(·.attached?.isSome)] l l' → PropertyOptions.read others = .ok (some o)) ∧
    (∀ attributes l, ListArguments PropertyArgument.reader "property" attributes l →
      ¬ (l.filterMap (·.setting?)).Nodup → ∃ e, PropertyOptions.read attributes = .error e) := by
  refine ⟨?_, ?_, ?_, ?_⟩
  · intro attributes o h
    refine ⟨BeanOptions.accept_setsOnce.exists_listArguments BeanArgument.not_isArgument_nil h, ?_⟩
    intro l others l' hl hl' hrearranged
    unfold BeanOptions.read at h ⊢
    rw [hl.acceptAttributes_eq BeanArgument.not_isArgument_nil] at h
    rw [hl'.acceptAttributes_eq BeanArgument.not_isArgument_nil]
    exact BeanOptions.foldlM_rearranged hrearranged h
  · intro attributes l hl hrepeated
    exact BeanOptions.accept_setsOnce.acceptAttributes_eq_error BeanArgument.not_isArgument_nil hl
      hrepeated
  · intro attributes o h
    obtain ⟨-, h⟩ := PropertyOptions.read_eq_ok_some.mp h
    refine ⟨PropertyOptions.accept_setsOnce.exists_listArguments
      PropertyArgument.not_isArgument_nil h, ?_⟩
    intro l others l' hl hnamed hl' hrearranged
    rw [hl.acceptAttributes_eq PropertyArgument.not_isArgument_nil] at h
    apply PropertyOptions.read_eq_ok_some.mpr
    rw [hl'.acceptAttributes_eq PropertyArgument.not_isArgument_nil]
    exact ⟨hnamed, PropertyOptions.foldlM_rearranged hrearranged h⟩
  · intro attributes l hl hrepeated
    obtain ⟨e, he⟩ := PropertyOptions.accept_setsOnce.acceptAttributes_eq_error
      PropertyArgument.not_isArgument_nil hl hrepeated
    by_cases hnamed : attributes.any (·.isNamed "property")
    · exact ⟨e, PropertyOptions.read_eq_error hnamed he⟩
    · obtain rfl := hl.eq_nil hnamed
      exact absurd List.nodup_nil hrepeated

/-- A bean and a property with two arguments each, first in one attribute, then in several and the other
way round, and both with an argument twice. -/
theorem lamp_regrouped :
    let lit : List Attribute := [⟨"bean", [.word "mutable", .attached "1"], false⟩]
    let apart : List Attribute :=
      [⟨"bean", [.attached "1"], true⟩, ⟨"bean", [], false⟩, ⟨"bean", [.word "mutable"], false⟩]
    let get : Attribute := ⟨"property", [.text "get" "field"], false⟩
    let both : List Attribute :=
      [⟨"property", [.text "validate" "not_null", .text "get" "field"], true⟩]
    let check : Attribute := ⟨"property", [.text "validate" "not_null"], false⟩
    BeanOptions.read lit = .ok { isMutable := true, annotations := ["1"] } ∧
      BeanOptions.read apart = .ok { isMutable := true, annotations := ["1"] } ∧
      (∃ e, BeanOptions.read (lit ++ apart) = .error e) ∧
      PropertyOptions.read both = .ok (some { getStyle := some .field, check := some .notNull }) ∧
      PropertyOptions.read [get, check] =
        .ok (some { getStyle := some .field, check := some .notNull }) ∧
      ∃ e, PropertyOptions.read (get :: both) = .error e := by
  intro lit apart get both check
  obtain ⟨hbean, hbeans, hproperty, hproperties⟩ := read_regrouped
  have hread : BeanOptions.read lit = .ok { isMutable := true, annotations := ["1"] } := by
    decide +kernel
  have hfield : PropertyOptions.read both =
      .ok (some { getStyle := some .field, check := some .notNull }) := by
    decide +kernel
  refine ⟨hread,
    (hbean lit _ hread).2 [.isMutable, .attached "1"] _ [.attached "1", .isMutable] ?_ ?_ ?_,
    hbeans _ [.isMutable, .attached "1", .attached "1", .isMutable] ?_ (by decide), hfield,
    (hproperty both _ hfield).2 [.validate "not_null", .get "field"] _
      [.get "field", .validate "not_null"] ?_ (by decide +kernel) ?_ ?_,
    hproperties _ [.get "field", .validate "not_null", .get "field"] ?_ (by decide)⟩
  · exact .of_reads [⟨[.isMutable, .attached "1"], none⟩] (by decide +kernel) (by simp) rfl
  · exact .of_reads [⟨[.attached "1"], none⟩, ⟨[], none⟩, ⟨[.isMutable], none⟩]
      (by decide +kernel) (by simp) rfl
  · exact ⟨.swap .., by simp [BeanArgument.attached?, BeanArgument.derived?]⟩
  · exact .of_reads [⟨[.isMutable, .attached "1"], none⟩, ⟨[.attached "1"], none⟩, ⟨[], none⟩,
      ⟨[.isMutable], none⟩] (by decide +kernel) (by simp) rfl
  · exact .of_reads [⟨[.validate "not_null", .get "field"], none⟩] (by decide +kernel) (by simp) rfl
  · exact .of_reads [⟨[.get "field"], none⟩, ⟨[.validate "not_null"], none⟩] (by decide +kernel)
      (by simp) rfl
  · exact ⟨.swap .., by simp [PropertyArgument.attached?]⟩
  · exact .of_reads [⟨[.get "field"], none⟩, ⟨[.validate "not_null", .get "field"], none⟩]
      (by decide +kernel) (by simp) rfl

end Beans.Declaration
