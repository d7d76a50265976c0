import Beans.Gallery.Leaves
import Mathlib.Data.List.Basic
/-!
# Types from their paths

The path of a container names it and then, in angle brackets, what it is built over. Where no leaf has a
bracket or a comma in its path, the first of these marks that is found outside of brackets ends the path
of a type, whatever stands behind it. So the path of a container falls into those of its arguments in one
way only, and different types have different paths.
-/

set_option autoImplicit false

namespace Beans

namespace Ty

/-! ### Texts without marks -/

/-- No character of the text opens, separates or closes the arguments of a type. -/
def Unmarked (text : List Char) : Prop :=
  ∀ c ∈ text, isNameEnd c = false

instance (text : List Char) : Decidable (Unmarked text) :=
  List.decidableBAll (fun c => isNameEnd c = false) text

/-- If anything is left, it starts with a mark. -/
def AtMark (rest : List Char) : Prop :=
  ∀ c, rest.head? = some c → isNameEnd c = true

/-- If anything is left, it starts with a mark that can stand behind an argument. -/
def BehindArgument (rest : List Char) : Prop :=
  ∀ c, rest.head? = some c → c = ',' ∨ c = '>'

theorem BehindArgument.atMark {rest : List Char} (h : BehindArgument rest) : AtMark rest := by
  intro c hc
  rcases h c hc with rfl | rfl
  · rfl
  · rfl

theorem atMark_cons {c : Char} (h : isNameEnd c = true) (rest : List Char) : AtMark (c :: rest) := by
  intro c' hc
  cases hc
  exact h

theorem behindArgument_cons {c : Char} (h : c = ',' ∨ c = '>') (rest : List Char) :
    BehindArgument (c :: rest) := by
  intro c' hc
  cases hc
  exact h

/-- A text without marks ends where the first mark stands. -/
theorem Unmarked.append_inj {a b rest rest' : List Char} (ha : Unmarked a) (hb : Unmarked b)
    (hrest : AtMark rest) (hrest' : AtMark rest') (h : a ++ rest = b ++ rest') :
    a = b ∧ rest = rest' := by
  induction a generalizing b with
  | nil =>
    cases b with
    | nil => exact ⟨rfl, h⟩
    | cons c b =>
      have hc : isNameEnd c = true := hrest c (congrArg List.head? h)
      exact absurd (hb c List.mem_cons_self) (ne_false_of_eq_true hc)
  | cons c a ih =>
    cases b with
    | nil =>
      have hc : isNameEnd c = true := hrest' c (congrArg List.head? h.symm)
      exact absurd (ha c List.mem_cons_self) (ne_false_of_eq_true hc)
    | cons c' b =>
      obtain ⟨rfl, htail⟩ := List.cons.inj h
      obtain ⟨-, ha⟩ := List.forall_mem_cons.mp ha
      obtain ⟨-, hb⟩ := List.forall_mem_cons.mp hb
      obtain ⟨rfl, hrest⟩ := ih ha hb htail
      exact ⟨rfl, hrest⟩

/-! ### Containers -/

/-- What containers are made by. -/
inductive Former where
  | option
  | list
  | set (storage : Storage)
  | map (storage : Storage)
deriving DecidableEq

namespace Former

def all : List Former :=
  [option, list, set .sorted, set .hashed, map .sorted, map .hashed]

theorem mem_all (f : Former) : f ∈ all := by
  cases f with
  | option | list => decide
  | set s | map s => cases s <;> decide

def stem : Former → String
  | option => "core::option::Option"
  | list => "alloc::vec::Vec"
  | set s => s.setHome ++ "::" ++ s.setName
  | map s => s.mapHome ++ "::" ++ s.mapName

theorem stem_injective {f g : Former} (h : f.stem = g.stem) : f = g := by
  have hall : ∀ f ∈ all, ∀ g ∈ all, f.stem = g.stem → f = g := by decide +kernel
  exact hall f (mem_all f) g (mem_all g) h

theorem unmarked_stem (f : Former) : Unmarked f.stem.toList := by
  have hall : ∀ f ∈ all, Unmarked f.stem.toList := by decide +kernel
  exact hall f (mem_all f)

end Former

def former? : Ty → Option Former
  | option _ => some .option
  | list _ => some .list
  | set s _ => some (.set s)
  | map s _ _ => some (.map s)
  | scalar _ | leaf _ | bean _ => none

variable {t u : Ty} {f : Former}

theorem path_of_former? (h : t.former? = some f) : t.path = applied f.stem (t.arguments.map path) := by
  cases t with
  | scalar _ | leaf _ | bean _ => cases h
  | option _ | list _ | set _ _ | map _ _ _ =>
    cases h
    rfl

theorem length_arguments_of_former? (ht : t.former? = some f) (hu : u.former? = some f) :
    t.arguments.length = u.arguments.length := by
  cases t <;> cases ht <;> cases u <;> cases hu <;> rfl

theorem eq_of_former? (ht : t.former? = some f) (hu : u.former? = some f)
    (h : t.arguments = u.arguments) : t = u := by
  cases t <;> cases ht <;> cases u <;> cases hu <;> cases h <;> rfl

/-! ### Arguments in texts -/

/-- The arguments of a container as text, with the bracket that closes them and what stands behind it. -/
def closed (ts : List Ty) (rest : List Char) : List Char :=
  (Text.commas (ts.map path)).toList ++ '>' :: rest

theorem closed_singleton (t : Ty) (rest : List Char) :
    closed [t] rest = t.path.toList ++ '>' :: rest := by
  simp [closed, Text.commas]

theorem closed_cons_cons (t u : Ty) (ts : List Ty) (rest : List Char) :
    closed (t :: u :: ts) rest = t.path.toList ++ ',' :: ' ' :: closed (u :: ts) rest := by
  simp [closed, Text.commas]

theorem path_append (h : t.former? = some f) (rest : List Char) :
    t.path.toList ++ rest = f.stem.toList ++ '<' :: closed t.arguments rest := by
  rw [path_of_former? h, applied, closed]
  simp

/-! ### Types that are built from leaves -/

/-- The types that containers build from some leaves. -/
inductive BuiltFrom (leaf : Ty → Prop) : Ty → Prop where
  | leaf {t : Ty} (h : leaf t) : BuiltFrom leaf t
  | option {t : Ty} (h : BuiltFrom leaf t) : BuiltFrom leaf (.option t)
  | list {t : Ty} (h : BuiltFrom leaf t) : BuiltFrom leaf (.list t)
  | set (s : Storage) {t : Ty} (h : BuiltFrom leaf t) : BuiltFrom leaf (.set s t)
  | map (s : Storage) {k v : Ty} (hk : BuiltFrom leaf k) (hv : BuiltFrom leaf v) :
    BuiltFrom leaf (.map s k v)

variable {leaf : Ty → Prop}

theorem BuiltFrom.cases_former (h : BuiltFrom leaf t) :
    leaf t ∨ ∃ f, t.former? = some f ∧ ∀ a ∈ t.arguments, BuiltFrom leaf a := by
  cases h with
  | leaf h => exact .inl h
  | option h | list h | set _ h => exact .inr ⟨_, rfl, List.forall_mem_singleton.mpr h⟩
  | map _ hk hv =>
    exact .inr ⟨_, rfl, List.forall_mem_cons.mpr ⟨hk, List.forall_mem_singleton.mpr hv⟩⟩

/-- In front of whatever can stand behind an argument, the path determines the type, and where it ends. -/
def Determined (leaf : Ty → Prop) (t : Ty) : Prop :=
  ∀ (u : Ty) (rest rest' : List Char), BuiltFrom leaf u → BehindArgument rest → BehindArgument rest' →
    t.path.toList ++ rest = u.path.toList ++ rest' → t = u ∧ rest = rest'

theorem arguments_determined {ts us : List Ty} {rest rest' : List Char} (hlength : ts.length = us.length)
    (hts : ∀ t ∈ ts, Determined leaf t) (hus : ∀ u ∈ us, BuiltFrom leaf u)
    (h : closed ts rest = closed us rest') : ts = us ∧ rest = rest' := by
  have hcomma (rest : List Char) : BehindArgument (',' :: rest) := behindArgument_cons (.inl rfl) rest
  have hclose (rest : List Char) : BehindArgument ('>' :: rest) := behindArgument_cons (.inr rfl) rest
  induction ts generalizing us with
  | nil =>
    obtain rfl := List.eq_nil_of_length_eq_zero hlength.symm
    exact ⟨rfl, (List.cons.inj h).2⟩
  | cons t ts ih =>
    obtain ⟨u, us, rfl⟩ := List.exists_cons_of_length_eq_add_one hlength.symm
    obtain ⟨ht, hothers⟩ := List.forall_mem_cons.mp hts
    obtain ⟨hu, hothers'⟩ := List.forall_mem_cons.mp hus
    have htail : ts.length = us.length := Nat.succ.inj hlength
    cases ts with
    | nil =>
      obtain rfl := List.eq_nil_of_length_eq_zero htail.symm
      rw [closed_singleton, closed_singleton] at h
      obtain ⟨rfl, hrest⟩ := ht u _ _ hu (hclose rest) (hclose rest') h
      exact ⟨rfl, (List.cons.inj hrest).2⟩
    | cons t' ts =>
      obtain ⟨u', us, rfl⟩ := List.exists_cons_of_length_eq_add_one htail.symm
      rw [closed_cons_cons, closed_cons_cons] at h
      obtain ⟨rfl, hcomma⟩ := ht u _ _ hu (hcomma _) (hcomma _) h
      have hclosed := (List.cons.inj (List.cons.inj hcomma).2).2
      obtain ⟨heq, hrest⟩ := ih htail hothers hothers' hclosed
      exact ⟨congrArg (t :: ·) heq, hrest⟩

section Plain

variable (hplain : ∀ t, leaf t → Unmarked t.path.toList)

include hplain

/-- A leaf and a container differ in the first mark: behind the stem of a container a bracket opens. -/
theorem leaf_ne_container {rest rest' : List Char} (ht : leaf t) (hu : u.former? = some f)
    (hrest : BehindArgument rest) : t.path.toList ++ rest ≠ u.path.toList ++ rest' := by
  intro h
  rw [path_append hu] at h
  obtain ⟨-, hbehind⟩ := (hplain t ht).append_inj f.unmarked_stem hrest.atMark
    (atMark_cons rfl _) h
  rcases hrest '<' (congrArg List.head? hbehind) with h | h
  · cases h
  · cases h

theorem determined_of_leaf (hdistinct : ∀ t u, leaf t → leaf u → t.path = u.path → t = u)
    (ht : leaf t) : Determined leaf t := by
  intro u rest rest' hu hrest hrest' h
  rcases hu.cases_former with hu | ⟨f, hf, -⟩
  · obtain ⟨hpath, hbehind⟩ := (hplain t ht).append_inj (hplain u hu) hrest.atMark hrest'.atMark h
    exact ⟨hdistinct t u ht hu (String.toList_inj.mp hpath), hbehind⟩
  · exact absurd h (leaf_ne_container hplain ht hf hrest)

theorem determined_of_arguments (hf : t.former? = some f) (ht : ∀ a ∈ t.arguments, Determined leaf a) :
    Determined leaf t := by
  intro u rest rest' hu hrest hrest' h
  rcases hu.cases_former with hu | ⟨g, hg, harguments⟩
  · exact absurd h.symm (leaf_ne_container hplain hu hf hrest')
  · rw [path_append hf, path_append hg] at h
    obtain ⟨hstem, hbehind⟩ := f.unmarked_stem.append_inj g.unmarked_stem (atMark_cons rfl _)
      (atMark_cons rfl _) h
    obtain rfl := Former.stem_injective (String.toList_inj.mp hstem)
    have hlength := length_arguments_of_former? hf hg
    obtain ⟨hsame, hrest⟩ := arguments_determined hlength ht harguments (List.cons.inj hbehind).2
    exact ⟨eq_of_former? hf hg hsame, hrest⟩

theorem BuiltFrom.determined (hdistinct : ∀ t u, leaf t → leaf u → t.path = u.path → t = u)
    (ht : BuiltFrom leaf t) : Determined leaf t := by
  induction ht with
  | leaf h => exact determined_of_leaf hplain hdistinct h
  | option _ ih | list _ ih | set _ _ ih =>
    exact determined_of_arguments hplain rfl (List.forall_mem_singleton.mpr ih)
  | map _ _ _ ihk ihv =>
    exact determined_of_arguments hplain rfl
      (List.forall_mem_cons.mpr ⟨ihk, List.forall_mem_singleton.mpr ihv⟩)

/-- Where the paths of the leaves are different and free of brackets and commas, two types that containers
build from them have the same path only if they are the same. -/
theorem path_eq_iff (hdistinct : ∀ t u, leaf t → leaf u → t.path = u.path → t = u)
    (ht : BuiltFrom leaf t) (hu : BuiltFrom leaf u) : t.path = u.path ↔ t = u := by
  constructor
  · intro h
    have hnothing : BehindArgument [] := nofun
    exact (ht.determined hplain hdistinct u [] [] hu hnothing hnothing (by rw [h])).1
  · exact congrArg path

end Plain

def galleryLeaves : List Ty :=
  Scalar.all.map scalar ++ Gallery.leafTypes.map .leaf

/-- Where one more bracket closes before the comma, the path is another one. -/
theorem path_ne_of_nesting :
    let byte : Ty := .int .u8
    let t := map .sorted (.leaf Gallery.code) (map .sorted (option byte) string)
    let u := map .sorted (map .sorted (.leaf Gallery.code) (option byte)) string
    (∀ t ∈ galleryLeaves, Unmarked t.path.toList) ∧
      (∀ t ∈ galleryLeaves, ∀ u ∈ galleryLeaves, t.path = u.path → t = u) ∧
      BuiltFrom (· ∈ galleryLeaves) t ∧ BuiltFrom (· ∈ galleryLeaves) u ∧ t.path ≠ u.path := by
  intro byte t u
  have hplain : ∀ t ∈ galleryLeaves, Unmarked t.path.toList := by decide +kernel
  have hdistinct : ∀ t ∈ galleryLeaves, ∀ u ∈ galleryLeaves, t.path = u.path → t = u := by
    decide +kernel
  have hcode : BuiltFrom (· ∈ galleryLeaves) (.leaf Gallery.code) := .leaf (by decide +kernel)
  have hbyte : BuiltFrom (· ∈ galleryLeaves) byte := .leaf (by decide +kernel)
  have hstring : BuiltFrom (· ∈ galleryLeaves) string := .leaf (by decide +kernel)
  have ht : BuiltFrom (· ∈ galleryLeaves) t := .map _ hcode (.map _ hbyte.option hstring)
  have hu : BuiltFrom (· ∈ galleryLeaves) u := .map _ (.map _ hcode hbyte.option) hstring
  have hne : t ≠ u := fun h => nomatch (map.inj h).2.1
  have hiff := path_eq_iff hplain (fun t u ht hu => hdistinct t ht u hu) ht hu
  exact ⟨hplain, hdistinct, ht, hu, mt hiff.mp hne⟩

end Ty

end Beans
