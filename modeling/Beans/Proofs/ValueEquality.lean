import Beans.Proofs.Collections
import Beans.Proofs.Lookup
import Beans.Proofs.Parts
import Beans.Proofs.Scalars
import Beans.Proofs.Traits
import Beans.Value.Hash
/-!
# Laws of equality and hash of values

Where leaf types and beans with an equality of their own keep its laws, equality is symmetric and transitive
on values as a program can have them, and what holds no NaN is equal to itself. Equal values have one type,
and one hash too if those types hash alike what they call equal. In a hashed set or map the elements or keys
of one side are only looked for on the other. Since no two of them are equal and there are as many on both
sides, they are the same ones in another order; this needs symmetry and transitivity one layer down, so both
are shown together, by induction on a bound for the sizes.
-/

set_option autoImplicit false

namespace Beans

/-! ### Hashed parts -/

theorem Layout.hashed_map {α β : Type} {f : α → β} (layout : Layout) (l : List α) :
    layout.hashed (l.map f) = (layout.hashed l).map f := by
  cases layout with
  | record fields =>
    simp only [hashed, List.zip_map_right, List.filter_map, List.map_map]
    rfl
  | row => rfl

theorem Layout.mem_of_mem_hashed {α : Type} {layout : Layout} {l : List α} {x : α}
    (h : x ∈ layout.hashed l) : x ∈ l := by
  cases layout with
  | record fields =>
    obtain ⟨y, hy, rfl⟩ := List.mem_map.mp h
    exact (List.of_mem_zip (List.mem_filter.mp hy).1).2
  | row => exact h

namespace Value

theorem sum_perm {hashes hashes' : List UInt64} (h : hashes.Perm hashes') :
    hashes.foldr (· + ·) 0 = hashes'.foldr (· + ·) 0 := by
  have hcomm : LeftCommutative fun x sum : UInt64 => x + sum := by
    constructor
    intro x y sum
    rw [← UInt64.add_assoc, UInt64.add_comm x y, UInt64.add_assoc]
  exact h.foldr_eq 0

theorem hashOfStored_eq (H : HashFunction) {α : Type} {f : α → UInt64} {storage : Storage} {l m : List α}
    (h : storage.Relates (fun x y => f x = f y) l m) :
    hashOfStored H storage (l.map f) = hashOfStored H storage (m.map f) := by
  cases storage with
  | sorted => exact congrArg (hashOfList H) (map_eq_map_of_forall₂ h fun _ _ h => h)
  | hashed =>
    have hperm := h.perm_map
    simp only [hashOfStored, hashOfBag, hperm.length_eq, sum_perm hperm]

/-! ### Values as a program can have them -/

def isNaN : Value → Bool
  | scalar s => s.isNaN
  | leaf _ c => c.isNaN
  | _ => false

/-- Nothing in the value is a float that is not a number. -/
def NaNFree (v : Value) : Prop :=
  v.Throughout fun w => w.isNaN = false

variable [Traits]

/-- No two elements of a hashed set are equal, nor are two keys of a hashed map. -/
def KeysDistinct : Value → Prop
  | set .hashed _ items => items.Pairwise fun v w => v.equal w = false
  | map .hashed _ _ entries => entries.Pairwise fun e f => e.1.equal f.1 = false
  | _ => True

/-- A value as a program can have it. -/
structure Proper (v : Value) : Prop where
  typed : v.WellTyped
  distinct : v.Throughout KeysDistinct

theorem Proper.part {v w : Value} (h : v.Proper) (hw : w ∈ v.parts) : w.Proper :=
  ⟨h.typed.part hw, h.distinct.part hw⟩

theorem Proper.of_parts {v : Value} (htyped : v.WellTyped) (hdistinct : v.KeysDistinct)
    (h : ∀ w ∈ v.parts, w.Proper) : v.Proper :=
  ⟨htyped, .intro hdistinct fun w hw => (h w hw).distinct⟩

end Value

/-! ### Contracts of types -/

section Contracts

variable [Traits]

/-- An equality of the beans of a type is symmetric and transitive where a program can have them, and a bean
without NaN is equal to itself. -/
structure BeanType.LawfulEqual (t : BeanType)
    (own : List (Option Value) → List (Option Value) → Bool) : Prop where
  self : ∀ a, (Value.bean t a).Proper → (Value.bean t a).NaNFree → own a a = true
  symm : ∀ a b, (Value.bean t a).Proper → (Value.bean t b).Proper → own a b = true → own b a = true
  trans : ∀ a b c, (Value.bean t a).Proper → (Value.bean t b).Proper → (Value.bean t c).Proper →
    own a b = true → own b c = true → own a c = true

/-- An equality of the beans of a type tells apart those that differ in a cell that is hashed. -/
def BeanType.LawfulHash (t : BeanType) (own : List (Option Value) → List (Option Value) → Bool) :
    Prop :=
  ∀ a b, (Value.bean t a).Proper → (Value.bean t b).Proper → own a b = true →
    Value.equalCells (t.layout.hashed a) (t.layout.hashed b) = true

structure Traits.LawfulEqual : Prop where
  leaf : ∀ l, (Traits.leaf l).LawfulEqual
  bean : ∀ t own, Traits.ownEqual? t = some own → t.LawfulEqual own

structure Traits.LawfulHash : Prop where
  leaf : ∀ l, (Traits.leaf l).LawfulHash
  bean : ∀ t own, Traits.ownEqual? t = some own → t.LawfulHash own

end Contracts

namespace Value

theorem optionRel_imp {R S : Value → Value → Prop} (hRS : ∀ v w, R v w → S v w)
    {c c' : Option Value} (h : Option.Rel R c c') : Option.Rel S c c' := by
  cases h with
  | some h => exact .some (hRS _ _ h)
  | none => exact .none

variable [Traits]

/-! ### What equality compares -/

section Lists

theorem equalContent_iff {a b : Option Value} :
    equalContent a b = true ↔ Option.Rel (fun v w => v.equal w = true) a b := by
  cases a <;> cases b <;> simp [equalContent]

theorem equalItems_iff {a b : List Value} :
    equalItems a b = true ↔ List.Forall₂ (fun v w => v.equal w = true) a b := by
  induction a generalizing b with
  | nil => cases b <;> simp [equalItems]
  | cons v a ih => cases b <;> simp [equalItems, ih]

theorem allAmong_iff {a b : List Value} :
    allAmong b a = true ↔ ∀ v ∈ a, ∃ w ∈ b, v.equal w = true := by
  induction a with
  | nil => simp [allAmong]
  | cons v a ih => simp [allAmong, ih]

/-- Keys and values of two entries are related. -/
def EntryBy (R : Value → Value → Prop) (e f : Value × Value) : Prop :=
  R e.1 f.1 ∧ R e.2 f.2

theorem equalEntries_iff {a b : List (Value × Value)} :
    equalEntries a b = true ↔ List.Forall₂ (EntryBy fun v w => v.equal w = true) a b := by
  induction a generalizing b with
  | nil => cases b <;> simp [equalEntries]
  | cons e a ih => cases b <;> simp [equalEntries, ih, EntryBy]

theorem entriesAmong_iff {a b : List (Value × Value)} : entriesAmong b a = true ↔
    ∀ e ∈ a, ∃ f, b.find? (e.1.equal ·.1) = some f ∧ e.2.equal f.2 = true := by
  induction a with
  | nil => simp [entriesAmong]
  | cons e a ih => simp [entriesAmong, ih, Option.any_eq_true]

theorem equalCells_iff {a b : List (Option Value)} :
    equalCells a b = true ↔ List.Forall₂ (Option.Rel fun v w => v.equal w = true) a b := by
  induction a generalizing b with
  | nil => cases b <;> simp [equalCells]
  | cons c a ih => cases b <;> simp [equalCells, ih, equalContent_iff]

end Lists

/-- The two values have one type, and their parts are related, unless the type compares its values in a way
of its own. -/
inductive AlikeBy (R : Value → Value → Prop) : Value → Value → Prop where
  | scalar {a b : ScalarValue} (h : a.equal b = true) : AlikeBy R (scalar a) (scalar b)
  | leaf (l : LeafType) {a b : LeafContent} (h : (Traits.leaf l).equal a b = true) :
    AlikeBy R (leaf l a) (leaf l b)
  | option (t : Ty) {a b : Option Value} (h : Option.Rel R a b) : AlikeBy R (option t a) (option t b)
  | list (t : Ty) {a b : List Value} (h : List.Forall₂ R a b) : AlikeBy R (list t a) (list t b)
  | set {storage : Storage} (t : Ty) {a b : List Value} (h : storage.Relates R a b) :
    AlikeBy R (set storage t a) (set storage t b)
  | map {storage : Storage} (k t : Ty) {a b : List (Value × Value)}
    (h : storage.Relates (EntryBy R) a b) : AlikeBy R (map storage k t a) (map storage k t b)
  | bean {t : BeanType} (ht : Traits.ownEqual? t = none) {a b : List (Option Value)}
    (h : List.Forall₂ (Option.Rel R) a b) : AlikeBy R (bean t a) (bean t b)
  | own {t : BeanType} {own : List (Option Value) → List (Option Value) → Bool}
    (ht : Traits.ownEqual? t = some own) {a b : List (Option Value)} (h : own a b = true) :
    AlikeBy R (bean t a) (bean t b)

namespace AlikeBy

variable {R S : Value → Value → Prop} {a b c : Value}

theorem type_eq (h : AlikeBy R a b) : a.type = b.type := by
  cases h with
  | scalar h => exact congrArg Ty.scalar (ScalarValue.type_eq_of_equal h)
  | leaf _ _ | option _ _ | list _ _ | set _ _ | map _ _ _ | bean _ _ | own _ _ => rfl

theorem imp (hRS : ∀ v w, R v w → S v w) (h : AlikeBy R a b) : AlikeBy S a b := by
  cases h with
  | scalar h => exact .scalar h
  | leaf l h => exact .leaf l h
  | option t h => exact .option t (optionRel_imp hRS h)
  | list t h => exact .list t (h.imp hRS)
  | set t h => exact .set t (h.imp hRS)
  | map k t h => exact .map k t (h.imp fun e f hef => ⟨hRS _ _ hef.1, hRS _ _ hef.2⟩)
  | bean ht h => exact .bean ht (h.imp fun _ _ => optionRel_imp hRS)
  | own ht h => exact .own ht h

theorem mem (h : AlikeBy R a b) :
    AlikeBy (fun v w => v ∈ a.parts ∧ w ∈ b.parts ∧ R v w) a b := by
  cases h with
  | scalar h => exact .scalar h
  | leaf l h => exact .leaf l h
  | option t h =>
    refine .option t ?_
    cases h with
    | some h => exact .some ⟨mem_parts_option.mpr rfl, mem_parts_option.mpr rfl, h⟩
    | none => exact .none
  | list t h => exact .list t (forall₂_mem h)
  | set t h => exact .set t h.mem
  | map k t h =>
    refine .map k t (h.mem.imp ?_)
    rintro e f ⟨he, hf, hkey, hvalue⟩
    exact ⟨⟨key_mem_parts he, key_mem_parts hf, hkey⟩,
      mapped_mem_parts he, mapped_mem_parts hf, hvalue⟩
  | bean ht h =>
    refine .bean ht ((forall₂_mem h).imp ?_)
    rintro c c' ⟨hc, hc', h⟩
    cases h with
    | some h => exact .some ⟨mem_parts_bean.mpr hc, mem_parts_bean.mpr hc', h⟩
    | none => exact .none
  | own ht h => exact .own ht h

theorem symm (hT : Traits.LawfulEqual) (ha : a.Proper) (hb : b.Proper)
    (hR : ∀ v w, R v w → R w v) (h : AlikeBy R a b) : AlikeBy R b a := by
  have hoption (c c' : Option Value) (h : Option.Rel R c c') : Option.Rel R c' c := by
    cases h with
    | some h => exact .some (hR _ _ h)
    | none => exact .none
  cases h with
  | scalar h => exact .scalar (ScalarValue.equal_symm h)
  | leaf l h => exact .leaf l ((hT.leaf l).symm _ _ h)
  | option t h => exact .option t (hoption _ _ h)
  | list t h => exact .list t (List.Forall₂.flip (h.imp hR))
  | set t h => exact .set t (h.symm hR)
  | map k t h => exact .map k t (h.symm fun e f hef => ⟨hR _ _ hef.1, hR _ _ hef.2⟩)
  | bean ht h => exact .bean ht (List.Forall₂.flip (h.imp hoption))
  | own ht h => exact .own ht ((hT.bean _ _ ht).symm _ _ ha hb h)

theorem trans (hT : Traits.LawfulEqual) (ha : a.Proper) (hb : b.Proper) (hc : c.Proper)
    (hR : ∀ u v w, R u v → R v w → R u w) (hab : AlikeBy R a b) (hbc : AlikeBy R b c) :
    AlikeBy R a c := by
  have hoption (u v w : Option Value) (huv : Option.Rel R u v) (hvw : Option.Rel R v w) :
      Option.Rel R u w := by
    cases huv with
    | some huv =>
      cases hvw with
      | some hvw => exact .some (hR _ _ _ huv hvw)
    | none => exact hvw
  cases hab with
  | scalar hab =>
    cases hbc with
    | scalar hbc => exact .scalar (ScalarValue.equal_trans hab hbc)
  | leaf l hab =>
    cases hbc with
    | leaf _ hbc => exact .leaf l ((hT.leaf l).trans _ _ _ hab hbc)
  | option t hab =>
    cases hbc with
    | option _ hbc => exact .option t (hoption _ _ _ hab hbc)
  | list t hab =>
    cases hbc with
    | list _ hbc => exact .list t (forall₂_trans hR hab hbc)
  | set t hab =>
    cases hbc with
    | set _ hbc => exact .set t (hab.trans hR hbc)
  | map k t hab =>
    cases hbc with
    | map _ _ hbc =>
      exact .map k t (hab.trans (fun d e f hde hef =>
        ⟨hR _ _ _ hde.1 hef.1, hR _ _ _ hde.2 hef.2⟩) hbc)
  | bean ht hab =>
    cases hbc with
    | bean _ hbc => exact .bean ht (forall₂_trans hoption hab hbc)
    | own ht' _ => cases ht.symm.trans ht'
  | own ht hab =>
    cases hbc with
    | bean ht' _ => cases ht.symm.trans ht'
    | own ht' hbc =>
      cases ht.symm.trans ht'
      exact .own ht ((hT.bean _ _ ht).trans _ _ _ ha hb hc hab hbc)

theorem of_parts (hT : Traits.LawfulEqual) (ha : a.Proper) (hnumbers : a.NaNFree)
    (h : ∀ w ∈ a.parts, R w w) : AlikeBy R a a := by
  have hoption (c : Option Value) (hc : ∀ w, c = some w → R w w) : Option.Rel R c c := by
    cases c with
    | some w => exact .some (hc w rfl)
    | none => exact .none
  cases a with
  | scalar s => exact .scalar (ScalarValue.equal_self hnumbers.here)
  | leaf l c => exact .leaf l ((hT.leaf l).self c hnumbers.here)
  | option t c => exact .option t (hoption c fun w hw => h w (mem_parts_option.mpr hw))
  | list t items => exact .list t (List.forall₂_same.mpr h)
  | set storage t items => exact .set t (.of_same h)
  | map storage k t entries =>
    exact .map k t (.of_same fun e he => ⟨h _ (key_mem_parts he), h _ (mapped_mem_parts he)⟩)
  | bean t cells =>
    cases ht : Traits.ownEqual? t with
    | some own => exact .own ht ((hT.bean t own ht).self cells ha hnumbers)
    | none =>
      refine .bean ht (List.forall₂_same.mpr fun c hc => hoption c ?_)
      rintro w rfl
      exact h w (mem_parts_bean.mpr hc)

end AlikeBy

/-! ### Symmetry and transitivity -/

/-- Among the values that have a property, equality is symmetric and transitive. -/
structure EqualityOn (P : Value → Prop) : Prop where
  symm : ∀ v w, P v → P w → v.equal w = true → w.equal v = true
  trans : ∀ u v w, P u → P v → P w → u.equal v = true → v.equal w = true → u.equal w = true

section Keys

variable {α : Type} {P : Value → Prop} (key : α → Value) {l m : List α}

/-- No two of the keys are equal to one and the same value. -/
theorem EqualityOn.apart (hP : EqualityOn P) (hl : ∀ x ∈ l, P (key x))
    (hdistinct : l.Pairwise fun x y => (key x).equal (key y) = false) :
    l.Pairwise fun x y => ∀ w, P w → (key x).equal w = true → ¬ (key y).equal w = true := by
  refine List.Pairwise.imp_of_mem ?_ hdistinct
  intro x y hx hy hxy w hw hxw hyw
  have hwy := hP.symm _ _ (hl y hy) hw hyw
  have hequal := hP.trans _ _ _ (hl x hx) hw (hl y hy) hxw hwy
  rw [hxy] at hequal
  cases hequal

theorem EqualityOn.relates (hP : EqualityOn P) (hl : ∀ x ∈ l, P (key x)) (hm : ∀ y ∈ m, P (key y))
    (hdistinct : l.Pairwise fun x y => (key x).equal (key y) = false) {R : α → α → Prop}
    (hR : ∀ x y, R x y → (key x).equal (key y) = true) (hlength : l.length = m.length)
    (hpartner : ∀ x ∈ l, ∃ y ∈ m, R x y) : Storage.hashed.Relates R l m := by
  apply exists_perm_of_partners hlength hpartner
  refine (hP.apart key hl hdistinct).imp fun h y hy hx hx' => ?_
  exact h (key y) (hm y hy) (hR _ _ hx) (hR _ _ hx')

/-- Among keys of which no two are equal, the one that is equal to a value is found. -/
theorem EqualityOn.find?_eq (hP : EqualityOn P) {v : Value} (hv : P v) (hm : ∀ y ∈ m, P (key y))
    (hdistinct : m.Pairwise fun x y => (key x).equal (key y) = false) {y : α} (hy : y ∈ m)
    (hequal : v.equal (key y) = true) : m.find? (v.equal <| key ·) = some y := by
  induction m with
  | nil => cases hy
  | cons x m ih =>
    obtain ⟨hpx, hpm⟩ := List.forall_mem_cons.mp hm
    obtain ⟨hx, hdistinct⟩ := List.pairwise_cons.mp hdistinct
    rcases List.mem_cons.mp hy with rfl | hy
    · rw [List.find?_cons, hequal]
    · have hne : v.equal (key x) = false := by
        rw [Bool.eq_false_iff]
        intro hvx
        have hxy := hP.trans _ _ _ hpx hv (hpm y hy) (hP.symm _ _ hv hpx hvx) hequal
        rw [hx y hy] at hxy
        cases hxy
      rw [List.find?_cons, hne]
      exact ih hpm hdistinct hy

end Keys

variable {P : Value → Prop} {a b c : Value}

theorem alikeBy_of_equal (hP : EqualityOn P) (ha : ∀ w ∈ a.parts, P w) (hb : ∀ w ∈ b.parts, P w)
    (hdistinct : a.KeysDistinct) (h : a.equal b = true) :
    AlikeBy (fun v w => v.equal w = true) a b := by
  unfold equal at h
  split at h
  · exact .scalar h
  · simp only [Bool.and_eq_true, beq_iff_eq] at h
    obtain ⟨rfl, h⟩ := h
    exact .leaf _ h
  · simp only [Bool.and_eq_true, beq_iff_eq] at h
    obtain ⟨rfl, h⟩ := h
    exact .option _ (equalContent_iff.mp h)
  · simp only [Bool.and_eq_true, beq_iff_eq] at h
    obtain ⟨rfl, h⟩ := h
    exact .list _ (equalItems_iff.mp h)
  · next storage s l storage' t m =>
    simp only [Bool.and_eq_true, beq_iff_eq] at h
    obtain ⟨⟨rfl, rfl⟩, h⟩ := h
    refine .set _ ?_
    cases storage with
    | sorted => exact equalItems_iff.mp h
    | hashed =>
      simp only [Bool.and_eq_true, beq_iff_eq] at h
      exact hP.relates id ha hb hdistinct (fun _ _ h => h) h.1 (allAmong_iff.mp h.2)
  · next storage s s' l storage' t t' m =>
    simp only [Bool.and_eq_true, beq_iff_eq] at h
    obtain ⟨⟨⟨rfl, rfl⟩, rfl⟩, h⟩ := h
    refine .map _ _ ?_
    cases storage with
    | sorted => exact equalEntries_iff.mp h
    | hashed =>
      simp only [Bool.and_eq_true, beq_iff_eq] at h
      refine hP.relates Prod.fst (fun e he => ha _ (key_mem_parts he))
        (fun f hf => hb _ (key_mem_parts hf)) hdistinct (fun _ _ h => h.1) h.1 ?_
      intro e he
      obtain ⟨f, hfind, hvalue⟩ := entriesAmong_iff.mp h.2 e he
      have hkey : e.1.equal f.1 = true := by simpa using List.find?_some hfind
      exact ⟨f, List.mem_of_find?_eq_some hfind, hkey, hvalue⟩
  · simp only [Bool.and_eq_true, beq_iff_eq] at h
    obtain ⟨rfl, h⟩ := h
    split at h
    · next own ht => exact .own ht h
    · next ht => exact .bean ht (equalCells_iff.mp h)
  · cases h

theorem equal_of_alikeBy (hP : EqualityOn P) (ha : ∀ w ∈ a.parts, P w) (hb : ∀ w ∈ b.parts, P w)
    (hdistinct : b.KeysDistinct) (h : AlikeBy (fun v w => v.equal w = true) a b) :
    a.equal b = true := by
  cases h with
  | scalar h => exact h
  | leaf l h => simp [equal, h]
  | option t h => simp [equal, equalContent_iff.mpr h]
  | list t h => simp [equal, equalItems_iff.mpr h]
  | @set storage t l m h =>
    cases storage with
    | sorted => simp [equal, equalItems_iff.mpr h]
    | hashed =>
      have hamong : allAmong m l = true := by
        rw [allAmong_iff]
        exact fun v hv => h.exists_partner hv
      simp [equal, h.length_eq, hamong]
  | @map storage k t l m h =>
    cases storage with
    | sorted => simp [equal, equalEntries_iff.mpr h]
    | hashed =>
      have hamong : entriesAmong m l = true := by
        rw [entriesAmong_iff]
        intro e he
        obtain ⟨f, hf, hkey, hvalue⟩ := h.exists_partner he
        refine ⟨f, ?_, hvalue⟩
        exact hP.find?_eq Prod.fst (ha _ (key_mem_parts he))
          (fun f hf => hb _ (key_mem_parts hf)) hdistinct hf hkey
      simp [equal, h.length_eq, hamong]
  | bean ht h => simp [equal, ht, equalCells_iff.mpr h]
  | own ht h => simp [equal, ht, h]

/-- Equality of values is equality of their parts, in any order in hashed sets and maps. -/
theorem equal_iff_alikeBy (hP : EqualityOn P) (ha : ∀ w ∈ a.parts, P w) (hb : ∀ w ∈ b.parts, P w)
    (hdistinct : a.KeysDistinct) (hdistinct' : b.KeysDistinct) :
    a.equal b = true ↔ AlikeBy (fun v w => P v ∧ P w ∧ v.equal w = true) a b := by
  constructor
  · intro h
    refine (alikeBy_of_equal hP ha hb hdistinct h).mem.imp ?_
    rintro v w ⟨hv, hw, h⟩
    exact ⟨ha v hv, hb w hw, h⟩
  · intro h
    exact equal_of_alikeBy hP ha hb hdistinct' (h.imp fun _ _ h => h.2.2)

theorem equalityOn_lt (hT : Traits.LawfulEqual) (n : Nat) : EqualityOn fun v => v.Proper ∧ sizeOf v < n := by
  induction n with
  | zero => exact ⟨fun _ _ h => absurd h.2 (Nat.not_lt_zero _),
      fun _ _ _ h => absurd h.2 (Nat.not_lt_zero _)⟩
  | succ n ih =>
    have hparts (v : Value) (hv : v.Proper ∧ sizeOf v < n + 1) :
        ∀ w ∈ v.parts, w.Proper ∧ sizeOf w < n := by
      intro w hw
      have hlt := sizeOf_lt_of_mem_parts hw
      exact ⟨hv.1.part hw, by omega⟩
    -- so among the parts the laws hold already, and hashed collections have partners one to one
    have halike (v w : Value) (hv : v.Proper ∧ sizeOf v < n + 1)
        (hw : w.Proper ∧ sizeOf w < n + 1) :=
      equal_iff_alikeBy ih (hparts v hv) (hparts w hw) hv.1.distinct.here hw.1.distinct.here
    constructor
    · intro v w hv hw h
      rw [halike v w hv hw] at h
      rw [halike w v hw hv]
      exact h.symm hT hv.1 hw.1 fun x y ⟨hx, hy, hxy⟩ => ⟨hy, hx, ih.symm x y hx hy hxy⟩
    · intro u v w hu hv hw huv hvw
      rw [halike u v hu hv] at huv
      rw [halike v w hv hw] at hvw
      rw [halike u w hu hw]
      exact huv.trans hT hu.1 hv.1 hw.1 (fun x y z ⟨hx, hy, hxy⟩ ⟨_, hz, hyz⟩ =>
        ⟨hx, hz, ih.trans x y z hx hy hz hxy hyz⟩) hvw

theorem equalityOn_proper (hT : Traits.LawfulEqual) : EqualityOn Proper where
  symm v w hv hw h :=
    have hlaws := equalityOn_lt hT (sizeOf v + sizeOf w + 1)
    hlaws.symm v w ⟨hv, by omega⟩ ⟨hw, by omega⟩ h
  trans u v w hu hv hw huv hvw :=
    have hlaws := equalityOn_lt hT (sizeOf u + sizeOf v + sizeOf w + 1)
    hlaws.trans u v w ⟨hu, by omega⟩ ⟨hv, by omega⟩ ⟨hw, by omega⟩ huv hvw

theorem Proper.equal_iff (hT : Traits.LawfulEqual) (ha : a.Proper) (hb : b.Proper) :
    a.equal b = true ↔ AlikeBy (fun v w => v.Proper ∧ w.Proper ∧ v.equal w = true) a b :=
  equal_iff_alikeBy (equalityOn_proper hT) (fun _ => ha.part) (fun _ => hb.part) ha.distinct.here
    hb.distinct.here

theorem Proper.equal_self (hT : Traits.LawfulEqual) (ha : a.Proper) (hnumbers : a.NaNFree) :
    a.equal a = true := by
  induction a using induction_parts with
  | step v ih =>
    rw [ha.equal_iff hT ha]
    refine .of_parts hT ha hnumbers fun w hw => ?_
    exact ⟨ha.part hw, ha.part hw, ih w hw (ha.part hw) (hnumbers.part hw)⟩

/-! ### Hashes -/

section Hash

variable (H : HashFunction)

theorem hashItems_eq (items : List Value) : hashItems H items = items.map (hash H) := by
  induction items with
  | nil => rfl
  | cons v rest ih => rw [hashItems, ih, List.map_cons]

theorem hashEntries_eq (entries : List (Value × Value)) : hashEntries H entries =
    entries.map fun e => hashOfPair H (e.1.hash H) (e.2.hash H) := by
  induction entries with
  | nil => rfl
  | cons e rest ih => rw [hashEntries, ih, List.map_cons]

theorem hashCells_eq (cells : List (Option Value)) :
    hashCells H cells = cells.map (Option.map (hash H)) := by
  induction cells with
  | nil => rfl
  | cons c rest ih =>
    rw [hashCells, ih, List.map_cons]
    cases c <;> rfl

/-- The hash of a bean depends on the cells that are hashed, and on no others. -/
theorem hash_bean_eq {t : BeanType} {l m : List (Option Value)}
    (h : (t.layout.hashed l).map (Option.map (hash H)) =
      (t.layout.hashed m).map (Option.map (hash H))) : (bean t l).hash H = (bean t m).hash H := by
  rw [hash, hash, hashCells_eq, hashCells_eq, hashOfCells, hashOfCells, Layout.hashed_map,
    Layout.hashed_map, h]

theorem hashes_eq_of_equal {l m : List (Option Value)}
    (h : List.Forall₂ (Option.Rel fun v w => v.hash H = w.hash H) l m) :
    l.map (Option.map (hash H)) = m.map (Option.map (hash H)) := by
  refine map_eq_map_of_forall₂ h fun c c' hc => ?_
  cases hc with
  | some hc => exact congrArg some hc
  | none => rfl

/-- Two equal values have one hash if their parts have wherever these are equal. -/
theorem hash_eq_of_parts (hT : Traits.LawfulEqual) (hH : Traits.LawfulHash) (ha : a.Proper)
    (hb : b.Proper)
    (hparts : ∀ v ∈ a.parts, ∀ w ∈ b.parts, v.equal w = true → v.hash H = w.hash H)
    (hequal : a.equal b = true) : a.hash H = b.hash H := by
  have halike : AlikeBy (fun v w => v.hash H = w.hash H) a b := by
    refine ((ha.equal_iff hT hb).mp hequal).mem.imp ?_
    rintro v w ⟨hv, hw, -, -, hvw⟩
    exact hparts v hv w hw hvw
  cases halike with
  | scalar h => rw [hash, hash, ScalarValue.writes_eq_of_equal ha.typed hb.typed h]
  | leaf l h =>
    rw [hash, hash]
    cases hwrites : (Traits.leaf l).writes? with
    | some writes => exact congrArg H (hH.leaf l writes hwrites _ _ h)
    | none => rfl
  | option t h =>
    cases h with
    | some h => rw [hash, hash, h]
    | none => rfl
  | list t h =>
    rw [hash, hash, hashItems_eq, hashItems_eq, map_eq_map_of_forall₂ h fun _ _ h => h]
  | set t h => rw [hash, hash, hashItems_eq, hashItems_eq, hashOfStored_eq H h]
  | map k t h =>
    rw [hash, hash, hashEntries_eq, hashEntries_eq]
    apply hashOfStored_eq
    exact h.imp fun e f hef => by rw [hef.1, hef.2]
  | @bean t ht l m h =>
    rw [hash, hash, hashCells_eq, hashCells_eq, hashes_eq_of_equal H h]
  | @own t own ht l m h =>
    refine hash_bean_eq H (hashes_eq_of_equal H ?_)
    refine (forall₂_mem (equalCells_iff.mp (hH.bean t own ht l m ha hb h))).imp ?_
    rintro c c' ⟨hc, hc', h⟩
    cases h with
    | some h =>
      exact .some (hparts _ (mem_parts_bean.mpr (Layout.mem_of_mem_hashed hc)) _
        (mem_parts_bean.mpr (Layout.mem_of_mem_hashed hc')) h)
    | none => exact .none

theorem Proper.hash_eq (hT : Traits.LawfulEqual) (hH : Traits.LawfulHash) (ha : a.Proper)
    (hb : b.Proper) (h : a.equal b = true) : a.hash H = b.hash H := by
  induction a using induction_parts generalizing b with
  | step v ih =>
    refine hash_eq_of_parts H hT hH ha hb (fun x hx y hy hxy => ?_) h
    exact ih x hx (ha.part hx) (hb.part hy) hxy

end Hash

end Value

/-! ### Values of a workshop -/

namespace Workshop

attribute [local instance] traits

/-- The levels of two releases, in a hashed map. -/
def levels (first second : Value × Nat) : Value :=
  let entry (e : Value × Nat) : Value × Value := (e.1, .scalar (.float .double e.2))
  .map .hashed (.leaf release) (.float .double) [entry first, entry second]

/-- A shelf with levels on it and a mark. -/
def shelf : BeanType where
  home := "workshop"
  name := "Shelf"
  layout := .record [{ name := "levels", isHashed := true }, { name := "mark", isHashed := true }]

def shelfOf (levels : Value) (reason : String) : Value :=
  .bean shelf [some levels, some (.bean mark [some (.ofString reason)])]

end Workshop

/-! ### An equality that leaves out what is hashed -/

namespace Tag

def tag : BeanType where
  home := "shop"
  name := "Tag"
  layout := .record [{ name := "id", isHashed := true }, { name := "note", isHashed := true }]

def idOf : List (Option Value) → Int
  | some (.scalar (.int _ n)) :: _ => n
  | _ => 0

/-- Tags are told apart by their ids. -/
@[reducible]
def traits : Traits where
  leaf _ := { equal := LeafContent.equal, writes? := none, order? := none, debug _ := "" }
  ownEqual? t := if t = tag then some fun a b => idOf a == idOf b else none

attribute [local instance] traits

/-- Two tags with one id and different notes: their equality keeps the laws, and their hashes differ. -/
theorem not_lawfulHash :
    let tagOf (note : String) : Value := .bean tag [some (.ofInt .u32 1), some (.ofString note)]
    Traits.LawfulEqual ∧ ¬ Traits.LawfulHash ∧ (tagOf "a").Proper ∧ (tagOf "b").Proper ∧
      (tagOf "a").equal (tagOf "b") = true ∧
      (tagOf "a").hash .standard ≠ (tagOf "b").hash .standard := by
  intro tagOf
  have hequal : Traits.LawfulEqual := by
    refine ⟨fun _ => LeafTraits.lawfulEqual_content, fun t own h => ?_⟩
    obtain ⟨rfl, ⟨⟩⟩ := Option.ite_none_right_eq_some.mp h
    constructor
    · exact fun _ _ _ => beq_self_eq_true _
    · exact fun _ _ _ _ hab => beq_iff_eq.mpr (beq_iff_eq.mp hab).symm
    · exact fun _ _ _ _ _ _ hab hbc =>
        beq_iff_eq.mpr ((beq_iff_eq.mp hab).trans (beq_iff_eq.mp hbc))
  have hid : (Value.ofInt .u32 1).WellTyped := by
    unfold Value.WellTyped ScalarValue.InRange
    decide
  have hproper (note : String) : (tagOf note).Proper := by
    refine .of_parts ⟨hid, trivial, trivial⟩ trivial fun w hw => ?_
    rcases List.mem_cons.mp hw with rfl | hw
    · exact .of_parts hid trivial nofun
    · cases List.mem_singleton.mp hw
      exact .of_parts trivial trivial nofun
  have hab : (tagOf "a").equal (tagOf "b") = true := by decide +kernel
  have hhash : (tagOf "a").hash .standard ≠ (tagOf "b").hash .standard := by decide +kernel
  refine ⟨hequal, fun hH => hhash ?_, hproper "a", hproper "b", hab, hhash⟩
  exact (hproper "a").hash_eq .standard hequal hH (hproper "b") hab

end Tag

end Beans
