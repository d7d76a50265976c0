import Beans.Declaration.Reading
import Beans.Proofs.Outcome
/-!
# Lists of arguments

The arguments of an attribute stand with commas between them, and perhaps one behind the last. What is
read without an error is such a list, and each argument in it is one that reads well alone. So the
attributes of a name come to one list of arguments, however these are distributed over them.
-/

set_option autoImplicit false

namespace Beans.Declaration

variable {α σ : Type} {argument : TokenReader α}

/-! ### One attribute -/

namespace ReadArguments

/-- Some tokens list arguments. -/
inductive Lists (argument : TokenReader α) : List Token → List α → Prop
  | nothing : Lists argument [] []
  | last {a : α} {tokens : List Token} (ha : IsArgument argument tokens a) :
      Lists argument tokens [a]
  | comma {a : α} {tokens rest : List Token} {l : List α} (ha : IsArgument argument tokens a)
      (isJoint : Bool) (hl : Lists argument rest l) :
      Lists argument (tokens ++ .mark ',' isJoint :: rest) (a :: l)

variable {tokens : List Token} {l l' : List α} {n : Nat} {leftover : Option Delimiter}

theorem readFrom_of_lists (hargument : ∀ a, ¬ IsArgument argument [] a)
    (h : Lists argument tokens l) (hn : tokens.length < n) :
    readFrom argument n { rest := tokens } = ⟨l, none⟩ := by
  induction h generalizing n with
  | nothing =>
    obtain ⟨n, rfl⟩ : ∃ k, n = k + 1 := ⟨n - 1, by omega⟩
    rfl
  | @last a tokens ha =>
    obtain ⟨n, rfl⟩ : ∃ k, n = k + 1 := ⟨n - 1, by omega⟩
    cases tokens with
    | nil => exact absurd ha (hargument a)
    | cons t tokens =>
      obtain ⟨written, hread⟩ := ha
      simp [readFrom, hread, ended, cons]
  | @comma a tokens rest l ha isJoint hl ih =>
    rw [List.length_append, List.length_cons] at hn
    obtain ⟨n, rfl⟩ : ∃ k, n = k + 1 := ⟨n - 1, by omega⟩
    rw [readFrom_followedBy ha, ih (by omega)]
    rfl

theorem lists_of_readFrom (h : readFrom argument n { rest := tokens, leftover } = ⟨l, none⟩) :
    leftover = none ∧ Lists argument tokens l := by
  induction n generalizing tokens l leftover with
  | zero => simp [readFrom] at h
  | succ n ih =>
    unfold readFrom at h
    cases tokens with
    | nil =>
      simp only [List.isEmpty_nil, if_true, ended, mk.injEq, Option.map_eq_none_iff] at h
      obtain ⟨rfl, hleftover⟩ := h
      exact ⟨hleftover, .nothing⟩
    | cons first tokens =>
      simp only [List.isEmpty_cons, Bool.false_eq_true, if_false] at h
      split at h
      · simp at h
      · next a t hread =>
        have hprecedes := argument.read_precedes hread
        obtain ⟨rest, written, left⟩ := t
        have hnone : left = none → leftover = none := by
          rintro rfl
          cases leftover with
          | none => rfl
          | some d => cases hprecedes.leftover d rfl
        cases rest with
        | nil =>
          simp only [cons, ended, mk.injEq, Option.map_eq_none_iff] at h
          obtain ⟨rfl, rfl⟩ := h
          obtain rfl := hnone rfl
          exact ⟨rfl, .last ⟨written, hread⟩⟩
        | cons t rest =>
          by_cases hcomma : t.isComma
          · obtain ⟨front, hfront⟩ := hprecedes.suffix
            simp only [hcomma, if_true, cons, mk.injEq] at h
            obtain ⟨rfl, herror⟩ := h
            obtain ⟨rfl, hl⟩ := ih (congrArg (mk _) herror)
            obtain rfl := hnone rfl
            cases t with
            | mark c isJoint =>
              obtain rfl : c = ',' := by simpa [Token.isComma, Token.isMark] using hcomma
              have htokens : front ++ .mark ',' isJoint :: rest = first :: tokens := hfront
              rw [← htokens] at hread ⊢
              have ha : IsArgument argument front a :=
                ⟨written, (argument.read_followedBy isJoint rest).mp hread⟩
              exact ⟨rfl, .comma ha isJoint hl⟩
            | _ => cases hcomma
          · simp [hcomma, cons] at h

theorem lists_iff (hargument : ∀ a, ¬ IsArgument argument [] a) :
    Lists argument tokens l ↔ ofTokens argument tokens = ⟨l, none⟩ := by
  constructor
  · intro h
    exact readFrom_of_lists hargument h (Nat.lt_succ_self _)
  · intro h
    exact (lists_of_readFrom h).2

end ReadArguments

/-! ### The attributes of a name -/

/-- The attributes of a name list arguments, one attribute after the other. -/
def ListArguments (argument : TokenReader α) (name : String) (attributes : List Attribute) (l : List α) :
    Prop :=
  ∃ parts, List.Forall₂ (fun a part => ∃ tokens, tokensOf a.written = .ok tokens ∧
    ReadArguments.Lists argument tokens part) (attributes.filter (·.isNamed name)) parts ∧
    parts.flatten = l

namespace ListArguments

variable {name : String} {attributes : List Attribute} {l l' : List α}
  {accept : σ → α → Reads σ} {o o' : σ}

/-- Arguments count in the same way in whichever attribute they stand. -/
theorem acceptAttributes_eq (hargument : ∀ a, ¬ ReadArguments.IsArgument argument [] a)
    (h : ListArguments argument name attributes l) (accept : σ → α → Reads σ) (o : σ) :
    acceptAttributes argument accept name o attributes = l.foldlM accept o := by
  obtain ⟨parts, hparts, rfl⟩ := h
  unfold acceptAttributes
  generalize attributes.filter (·.isNamed name) = named at hparts ⊢
  induction hparts generalizing o with
  | nil => rfl
  | @cons a part _ parts ha _ ih =>
    obtain ⟨tokens, htokens, hlists⟩ := ha
    rw [List.foldlM_cons, List.flatten_cons, List.foldlM_append, htokens]
    have hpart : acceptAll accept o (.ofTokens argument tokens) = part.foldlM accept o := by
      rw [(ReadArguments.lists_iff hargument).mp hlists]
      exact bind_pure _
    change (acceptAll accept o (.ofTokens argument tokens) >>= _) = _
    rw [hpart]
    exact bind_congr ih

theorem of_acceptAttributes
    (h : acceptAttributes argument accept name o attributes = .ok o') :
    ∃ l, ListArguments argument name attributes l := by
  unfold acceptAttributes at h
  unfold ListArguments
  generalize attributes.filter (·.isNamed name) = named at h ⊢
  induction named generalizing o with
  | nil => exact ⟨[], [], .nil, rfl⟩
  | cons a named ih =>
    rw [List.foldlM_cons] at h
    obtain ⟨next, haccept, h⟩ := bind_eq_ok.mp h
    obtain ⟨tokens, htokens, haccept⟩ := bind_eq_ok.mp haccept
    obtain ⟨-, parts, hparts, rfl⟩ := ih h
    obtain ⟨last, -, haccept⟩ := bind_eq_ok.mp haccept
    obtain ⟨part, hpart⟩ : ∃ part, ReadArguments.ofTokens argument tokens = ⟨part, none⟩ := by
      split at haccept
      · cases haccept
      · next hnone => exact ⟨_, congrArg (ReadArguments.mk _) hnone⟩
    have hlists := (ReadArguments.lists_of_readFrom hpart).2
    exact ⟨_, part :: parts, .cons ⟨tokens, htokens, hlists⟩ hparts, rfl⟩

theorem eq_nil (h : ListArguments argument name attributes l)
    (hnone : ¬ attributes.any (·.isNamed name)) : l = [] := by
  obtain ⟨parts, hparts, rfl⟩ := h
  have hfilter : attributes.filter (·.isNamed name) = [] := by
    rw [List.filter_eq_nil_iff]
    intro a ha hnamed
    exact hnone (List.any_eq_true.mpr ⟨a, ha, hnamed⟩)
  rw [hfilter] at hparts
  cases hparts
  rfl

/-- What is read of each attribute without an error is what they list. -/
theorem of_reads (reads : List (ReadArguments α))
    (h : (attributes.filter (·.isNamed name)).mapM
      (fun a => (tokensOf a.written).map (.ofTokens argument)) = .ok reads)
    (hreads : ∀ r ∈ reads, r.error = none) (hl : (reads.map (·.arguments)).flatten = l) :
    ListArguments argument name attributes l := by
  refine ⟨_, ?_, hl⟩
  rw [mapM_eq_ok_iff] at h
  clear hl
  generalize attributes.filter (·.isNamed name) = named at h ⊢
  induction h with
  | nil => exact .nil
  | @cons a r _ _ ha _ ih =>
    obtain ⟨hr, hrest⟩ := List.forall_mem_cons.mp hreads
    obtain ⟨tokens, htokens, rfl⟩ := map_eq_ok.mp ha
    refine .cons ⟨tokens, htokens, ?_⟩ (ih hrest)
    exact (ReadArguments.lists_of_readFrom (congrArg (ReadArguments.mk _) hr)).2

end ListArguments

/-! ### Taking arguments over -/

theorem setOnce_eq_ok {α : Type} {name : String} {old r : Option α} {new : α} :
    setOnce name old new = .ok r ↔ old = none ∧ some new = r := by
  cases old <;> simp [setOnce]

theorem setFlag_eq_ok {name : String} {old r : Bool} :
    setFlag name old = .ok r ↔ old = false ∧ true = r := by
  cases old <;> simp [setFlag]

namespace BeanOptions

/-- What an argument changes, and when it may. -/
inductive Takes (o : BeanOptions) : BeanArgument → BeanOptions → Prop
  | accessor {name : String} {kind : AccessorKind} (hkind : AccessorKind.ofName? name = some kind)
      (hold : o.kind = none) : Takes o (.accessor name) { o with kind := some kind }
  | isMutable (hold : o.isMutable = false) : Takes o .isMutable { o with isMutable := true }
  | isAutoRegistered (hold : o.isAutoRegistered = false) :
      Takes o .isAutoRegistered { o with isAutoRegistered := true }
  | schema (path : String) (hold : o.schema = none) :
      Takes o (.schema path) { o with schema := some path }
  | derived (d : DerivedDeclaration String String) :
      Takes o (.derived d) { o with derived := o.derived ++ [d] }
  | attached (e : String) : Takes o (.attached e) { o with annotations := o.annotations ++ [e] }

theorem accept_eq_ok {o o' : BeanOptions} {a : BeanArgument} :
    o.accept a = .ok o' ↔ o.Takes a o' := by
  constructor
  · intro h
    cases a with
    | accessor name =>
      unfold accept at h
      simp only at h
      split at h
      · next kind hkind =>
        obtain ⟨r, hset, h⟩ := bind_eq_ok.mp h
        obtain ⟨hold, rfl⟩ := setOnce_eq_ok.mp hset
        cases h
        exact .accessor hkind hold
      · cases h
    | isMutable =>
      obtain ⟨r, hset, h⟩ := bind_eq_ok.mp h
      obtain ⟨hold, rfl⟩ := setFlag_eq_ok.mp hset
      cases h
      exact .isMutable hold
    | isAutoRegistered =>
      obtain ⟨r, hset, h⟩ := bind_eq_ok.mp h
      obtain ⟨hold, rfl⟩ := setFlag_eq_ok.mp hset
      cases h
      exact .isAutoRegistered hold
    | schema path =>
      obtain ⟨r, hset, h⟩ := bind_eq_ok.mp h
      obtain ⟨hold, rfl⟩ := setOnce_eq_ok.mp hset
      cases h
      exact .schema path hold
    | derived d =>
      cases h
      exact .derived d
    | attached e =>
      cases h
      exact .attached e
    | unknown => cases h
  · intro h
    cases h with
    | accessor hkind hold =>
      unfold accept
      simp only [hkind, hold]
      rfl
    | isMutable hold | isAutoRegistered hold | schema _ hold =>
      unfold accept
      simp only [hold]
      rfl
    | derived d | attached e => rfl

end BeanOptions

namespace PropertyOptions

inductive Takes (o : PropertyOptions) : PropertyArgument → PropertyOptions → Prop
  | get {name : String} {style : GetStyle} (hstyle : GetStyle.ofName? name = some style)
      (hold : o.getStyle = none) : Takes o (.get name) { o with getStyle := some style }
  | validate {name : String} {check : Check} (hcheck : Check.ofName? name = some check)
      (hold : o.check = none) : Takes o (.validate name) { o with check := some check }
  | attached (e : String) : Takes o (.attached e) { o with annotations := o.annotations ++ [e] }

theorem accept_eq_ok {o o' : PropertyOptions} {a : PropertyArgument} :
    o.accept a = .ok o' ↔ o.Takes a o' := by
  constructor
  · intro h
    cases a with
    | get name =>
      unfold accept at h
      simp only at h
      split at h
      · next style hstyle =>
        obtain ⟨r, hset, h⟩ := bind_eq_ok.mp h
        obtain ⟨hold, rfl⟩ := setOnce_eq_ok.mp hset
        cases h
        exact .get hstyle hold
      · cases h
    | validate name =>
      unfold accept at h
      simp only at h
      split at h
      · next check hcheck =>
        obtain ⟨r, hset, h⟩ := bind_eq_ok.mp h
        obtain ⟨hold, rfl⟩ := setOnce_eq_ok.mp hset
        cases h
        exact .validate hcheck hold
      · cases h
    | attached e =>
      cases h
      exact .attached e
    | unknown => cases h
  · intro h
    cases h with
    | get hknown hold | validate hknown hold =>
      unfold accept
      simp only [hknown, hold]
      rfl
    | attached e => rfl

end PropertyOptions

/-- An argument that is taken over adds what it says, if anything, to a list that is kept. -/
def Adds {β : Type} (accept : σ → α → Reads σ) (kept : σ → List β) (said? : α → Option β) : Prop :=
  ∀ {o o' : σ} {a : α}, accept o a = .ok o' → kept o' = kept o ++ (said? a).toList

theorem Adds.foldlM {β : Type} {accept : σ → α → Reads σ} {kept : σ → List β} {said? : α → Option β}
    (h : Adds accept kept said?) {arguments : List α} {o o' : σ}
    (hfold : arguments.foldlM accept o = .ok o') : kept o' = kept o ++ arguments.filterMap said? := by
  induction arguments generalizing o with
  | nil =>
    cases hfold
    exact (List.append_nil _).symm
  | cons a arguments ih =>
    rw [List.foldlM_cons] at hfold
    obtain ⟨next, haccept, hfold⟩ := bind_eq_ok.mp hfold
    rw [ih hfold, h haccept, List.filterMap_cons, List.append_assoc]
    cases said? a <;> rfl

end Beans.Declaration
