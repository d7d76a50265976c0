import Beans.Proofs.Lookup
import Mathlib.Data.List.Forall2
import Mathlib.Data.List.Perm.Basic
import Mathlib.Logic.Relation
/-!
# Collections with related elements

Two collections are related if their elements are, one to one. In sorted ones the order counts, and in
hashed ones it does not: there it is enough that each element has a partner on the other side, if no two
of them share one.
-/

set_option autoImplicit false

namespace Beans

variable {α β γ : Type}

/-- The elements of the two collections are related one to one, in the same order if they are sorted. -/
def Storage.Relates (R : α → β → Prop) (l : List α) (m : List β) : Storage → Prop
  | .sorted => List.Forall₂ R l m
  | .hashed => ∃ m', List.Forall₂ R l m' ∧ m'.Perm m

theorem forall₂_mem {R : α → β → Prop} {l : List α} {m : List β} (h : List.Forall₂ R l m) :
    List.Forall₂ (fun a b => a ∈ l ∧ b ∈ m ∧ R a b) l m := by
  induction h with
  | nil => exact .nil
  | cons hab _ ih =>
    refine .cons ⟨List.mem_cons_self, List.mem_cons_self, hab⟩ (ih.imp ?_)
    rintro a b ⟨ha, hb, h⟩
    exact ⟨List.mem_cons_of_mem _ ha, List.mem_cons_of_mem _ hb, h⟩

theorem exists_of_forall₂ {R : α → β → Prop} {l : List α} {m : List β} (h : List.Forall₂ R l m)
    {a : α} (ha : a ∈ l) : ∃ b ∈ m, R a b := by
  induction h with
  | nil => cases ha
  | @cons a' b _ _ hab _ ih =>
    rcases List.mem_cons.mp ha with rfl | ha
    · exact ⟨b, List.mem_cons_self, hab⟩
    · obtain ⟨c, hc, hac⟩ := ih ha
      exact ⟨c, List.mem_cons_of_mem b hc, hac⟩

theorem forall₂_trans {R : α → β → Prop} {S : β → γ → Prop} {T : α → γ → Prop}
    (hT : ∀ a b c, R a b → S b c → T a c) {l : List α} {m : List β} {n : List γ}
    (hlm : List.Forall₂ R l m) (hmn : List.Forall₂ S m n) : List.Forall₂ T l n := by
  induction hlm generalizing n with
  | nil =>
    cases hmn
    exact .nil
  | cons hab _ ih =>
    cases hmn with
    | cons hbc hmn => exact .cons (hT _ _ _ hab hbc) (ih hmn)

/-- Where different elements have no partner in common, and there are as many of both sorts, each having
a partner is enough. -/
theorem exists_perm_of_partners {R : α → β → Prop} {l : List α} {m : List β}
    (hlength : l.length = m.length) (hpartner : ∀ a ∈ l, ∃ b ∈ m, R a b)
    (hapart : l.Pairwise fun a a' => ∀ b ∈ m, R a b → ¬ R a' b) :
    ∃ m', List.Forall₂ R l m' ∧ m'.Perm m := by
  induction l generalizing m with
  | nil =>
    rw [List.eq_nil_of_length_eq_zero hlength.symm]
    exact ⟨[], .nil, .nil⟩
  | cons a l ih =>
    obtain ⟨⟨b, hb, hab⟩, hpartner⟩ := List.forall_mem_cons.mp hpartner
    obtain ⟨ha, hapart⟩ := List.pairwise_cons.mp hapart
    obtain ⟨s, t, rfl⟩ := List.append_of_mem hb
    have hsub : ∀ c ∈ s ++ t, c ∈ s ++ b :: t := fun c hc =>
      (List.perm_middle.mem_iff).mpr (List.mem_cons_of_mem b hc)
    have hrest : ∃ m', List.Forall₂ R l m' ∧ m'.Perm (s ++ t) := by
      apply ih
      · simp only [List.length_cons, List.length_append] at hlength ⊢
        omega
      · -- the partner of `a` is none of theirs
        intro a' ha'
        obtain ⟨c, hc, hac⟩ := hpartner a' ha'
        rcases List.mem_cons.mp (List.perm_middle.mem_iff.mp hc) with rfl | hc
        · exact absurd hac (ha a' ha' c hc hab)
        · exact ⟨c, hc, hac⟩
      · exact hapart.imp fun h c hc => h c (hsub c hc)
    obtain ⟨m', hrel, hperm⟩ := hrest
    exact ⟨b :: m', .cons hab hrel, (hperm.cons b).trans List.perm_middle.symm⟩

namespace Storage.Relates

variable {storage : Storage} {R : α → β → Prop} {l : List α} {m : List β}

theorem mem (h : storage.Relates R l m) :
    storage.Relates (fun a b => a ∈ l ∧ b ∈ m ∧ R a b) l m := by
  cases storage with
  | sorted => exact forall₂_mem h
  | hashed =>
    obtain ⟨m', hrel, hperm⟩ := h
    exact ⟨m', (forall₂_mem hrel).imp fun a b h => ⟨h.1, hperm.mem_iff.mp h.2.1, h.2.2⟩, hperm⟩

theorem imp {S : α → β → Prop} (hRS : ∀ a b, R a b → S a b) (h : storage.Relates R l m) :
    storage.Relates S l m := by
  cases storage with
  | sorted => exact List.Forall₂.imp hRS h
  | hashed =>
    obtain ⟨m', hrel, hperm⟩ := h
    exact ⟨m', hrel.imp hRS, hperm⟩

theorem of_same {R : α → α → Prop} {l : List α} (h : ∀ a ∈ l, R a a) : storage.Relates R l l := by
  cases storage with
  | sorted => exact List.forall₂_same.mpr h
  | hashed => exact ⟨l, List.forall₂_same.mpr h, .refl l⟩

theorem symm {S : β → α → Prop} (hRS : ∀ a b, R a b → S b a) (h : storage.Relates R l m) :
    storage.Relates S m l := by
  have hflip {l : List α} {m : List β} (h : List.Forall₂ R l m) : List.Forall₂ S m l :=
    List.Forall₂.flip (h.imp hRS)
  cases storage with
  | sorted => exact hflip h
  | hashed =>
    obtain ⟨m', hrel, hperm⟩ := h
    exact List.perm_comp_forall₂ hperm.symm (hflip hrel)

theorem trans {S : β → γ → Prop} {T : α → γ → Prop} {n : List γ}
    (hT : ∀ a b c, R a b → S b c → T a c) (hlm : storage.Relates R l m)
    (hmn : storage.Relates S m n) : storage.Relates T l n := by
  cases storage with
  | sorted => exact forall₂_trans hT hlm hmn
  | hashed =>
    obtain ⟨m', hrel, hperm⟩ := hlm
    obtain ⟨n', hrel', hperm'⟩ := hmn
    obtain ⟨n'', hrel'', hperm''⟩ := List.perm_comp_forall₂ hperm hrel'
    exact ⟨n'', forall₂_trans hT hrel hrel'', hperm''.trans hperm'⟩

theorem exists_partner (h : storage.Relates R l m) {a : α} (ha : a ∈ l) : ∃ b ∈ m, R a b := by
  cases storage with
  | sorted => exact exists_of_forall₂ h ha
  | hashed =>
    obtain ⟨m', hrel, hperm⟩ := h
    obtain ⟨b, hb, hab⟩ := exists_of_forall₂ hrel ha
    exact ⟨b, hperm.mem_iff.mp hb, hab⟩

theorem length_eq (h : storage.Relates R l m) : l.length = m.length := by
  cases storage with
  | sorted => exact List.Forall₂.length_eq h
  | hashed =>
    obtain ⟨m', hrel, hperm⟩ := h
    exact hrel.length_eq.trans hperm.length_eq

theorem perm_map {f : α → γ} {g : β → γ} (h : Storage.hashed.Relates (fun a b => f a = g b) l m) :
    (l.map f).Perm (m.map g) := by
  obtain ⟨m', hrel, hperm⟩ := h
  rw [map_eq_map_of_forall₂ hrel fun _ _ h => h]
  exact hperm.map g

end Storage.Relates

end Beans
