import Beans.Proofs.Scalars
import Beans.Value.Hash
/-!
# Contracts of leaf types

A leaf type may compare, hash and order its values as it likes, within the contracts that go with that:
equality is symmetric and transitive, equal values are hashed alike, and the order is total and calls equal
what is equal. What a type does by a key of its values keeps all of them.
-/

set_option autoImplicit false

namespace Beans

namespace LeafTraits

structure LawfulEqual (t : LeafTraits) : Prop where
  /-- What holds no NaN is equal to itself. -/
  self : ∀ c : LeafContent, c.isNaN = false → t.equal c c = true
  symm : ∀ a b, t.equal a b = true → t.equal b a = true
  trans : ∀ a b c, t.equal a b = true → t.equal b c = true → t.equal a c = true

/-- Equal values hand the same to a hash function. -/
def LawfulHash (t : LeafTraits) : Prop :=
  ∀ writes, t.writes? = some writes → ∀ a b, t.equal a b = true → writes a = writes b

def Ordered (t : LeafTraits) : Prop :=
  ∀ order, t.order? = some order → Std.TransCmp order

structure LawfulOrder (t : LeafTraits) : Prop where
  ordered : t.Ordered
  eq_iff : ∀ order, t.order? = some order → ∀ a b, order a b = .eq ↔ t.equal a b = true

section ByKey

variable {κ : Type} [BEq κ] [LawfulBEq κ] [Ord κ] {key : LeafContent → κ}
  {writes? : Option (κ → List HashWrite)} {isOrdered : Bool} {debug : LeafContent → String}

theorem byKey_equal {a b : LeafContent} :
    (byKey key writes? isOrdered debug).equal a b = true ↔ key a = key b :=
  beq_iff_eq

theorem byKey_lawfulOrder [Std.TransOrd κ] [Std.LawfulEqOrd κ] :
    (byKey key writes? isOrdered debug).LawfulOrder := by
  have horder {order : LeafContent → LeafContent → Ordering}
      (h : (byKey key writes? isOrdered debug).order? = some order) : order = compareOn key := by
    obtain ⟨-, ⟨⟩⟩ := Option.ite_none_right_eq_some.mp h
    rfl
  constructor
  case ordered =>
    intro order h
    rw [horder h]
    infer_instance
  case eq_iff =>
    intro order h a b
    rw [horder h, byKey_equal]
    exact Std.LawfulEqOrd.compare_eq_iff_eq

end ByKey

/-- Contents that are compared part by part, and neither hashed nor ordered. -/
theorem lawfulEqual_content {debug : LeafContent → String} :
    LawfulEqual { equal := LeafContent.equal, writes? := none, order? := none, debug } where
  self _ := LeafContent.equal_self
  symm _ _ := LeafContent.equal_symm
  trans _ _ _ := LeafContent.equal_trans

end LeafTraits

/-- The leaf types that are ordered are so by a total order. -/
def Traits.Ordered [Traits] : Prop :=
  ∀ l, (Traits.leaf l).Ordered

def Traits.LawfulOrder [Traits] : Prop :=
  ∀ l, (Traits.leaf l).LawfulOrder

theorem Traits.LawfulOrder.ordered [Traits] (h : Traits.LawfulOrder) : Traits.Ordered :=
  fun l => (h l).ordered

/-! ### A workshop -/

namespace Workshop

/-- The number of a release, and that of its build. -/
def release : LeafType where
  path := "workshop::Release"
  shape := .other

def releaseOf (number build : Int) : Value :=
  .leaf release (.pair (.wrapper (.int .u16 number)) (.wrapper (.int .u16 build)))

def numberOf : LeafContent → Int
  | .pair (.wrapper (.int _ n)) _ => n
  | _ => 0

/-- Marks on something, of which one is as good as another. -/
def mark : BeanType where
  home := "workshop"
  name := "Mark"
  layout := .record [{ name := "reason", isHashed := false }]

/-- Releases are told apart and ordered by their numbers, and marks are not told apart. -/
@[reducible]
def traits : Traits where
  leaf _ := .byKey numberOf (some fun n => (ScalarValue.int .u16 n).writes) true fun _ => "Release"
  ownEqual? t := if t = mark then some fun _ _ => true else none

attribute [local instance] traits

theorem lawfulOrder : Traits.LawfulOrder :=
  fun _ => LeafTraits.byKey_lawfulOrder

end Workshop

end Beans
