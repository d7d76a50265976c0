import Beans.Builder
import Beans.Proofs.Coercion
/-!
# Runs of builders

A run is a sequence of calls on a builder before it builds. Each call is answered, and one that is
refused leaves the builder as it was. Text is set by setting the value that it reads as, so what setting
a value preserves holds after every run.
-/

set_option autoImplicit false

namespace Beans.Builder

inductive Call where
  | set (name : String) (v : Option Value)
  | setText (name text : String)
  | get (name : String)

def Call.Sets (c : Call) (name : String) : Prop :=
  match c with
  | .set n _ | .setText n _ => n = name
  | .get _ => False

theorem Call.Sets.unique {c : Call} {name name' : String} (h : c.Sets name) (h' : c.Sets name') :
    name = name' := by
  cases c with
  | set n v => exact h.symm.trans h'
  | setText n text => exact h.symm.trans h'
  | get n => cases h

/-- What a call offers to a property: a value or null, for a text the value that it reads as. -/
def Call.offered? (c : Call) (d : Descriptor) : Option (Option Value) :=
  match c with
  | .set _ v => some v
  | .setText name text => do
    let p ← d.find? name
    let v ← (d.converter.converter.read p.type.unwrapped text).toOption
    return some v
  | .get _ => none

inductive Answer where
  | refused (e : BeanError)
  | done
  | held (v : Option Value)

def settle (b : Builder) : Except BeanError Builder → Answer × Builder
  | .ok b' => (.done, b')
  | .error e => (.refused e, b)

def call (b : Builder) : Call → Answer × Builder
  | .set name v => b.settle (b.set name v)
  | .setText name text => b.settle (b.setText name text)
  | .get name =>
    match b.get name with
    | .ok v => (.held v, b)
    | .error e => (.refused e, b)

def run (b : Builder) : List Call → List Answer × Builder
  | [] => ([], b)
  | c :: calls =>
    let rest := (b.call c).2.run calls
    ((b.call c).1 :: rest.1, rest.2)

variable {b c : Builder}

/-! ### Single calls -/

theorem buildable_eq_ok {name : String} {p : Property} {slot : Nat} :
    b.buildable name = .ok (p, slot) ↔
      b.descriptor.find? name = some p ∧ p.slot? = some slot ∧ p.isBuildable = true := by
  unfold buildable
  constructor
  · intro h
    split at h
    · cases h
    · rename_i q hq
      split at h
      · rename_i i hslot hb
        cases h
        exact ⟨hq, hslot, hb⟩
      · cases h
  · rintro ⟨hfind, hslot, hb⟩
    simp only [hfind, hslot, hb]

theorem set_eq_ok {name : String} {v : Option Value} {b' : Builder} :
    b.set name v = .ok b' ↔ ∃ p slot w, b.buildable name = .ok (p, slot) ∧ p.accept? v = .ok w ∧
      b' = { b with slots := b.slots.set slot { value := w, isSet := true } } := by
  unfold set
  constructor
  · intro h
    obtain ⟨⟨p, slot⟩, hp, h⟩ := bind_eq_ok.mp h
    obtain ⟨w, hw, h⟩ := bind_eq_ok.mp h
    cases h
    exact ⟨p, slot, w, hp, hw, rfl⟩
  · rintro ⟨p, slot, w, hp, hw, rfl⟩
    exact bind_eq_ok.mpr ⟨_, hp, bind_eq_ok.mpr ⟨w, hw, rfl⟩⟩

theorem descriptor_of_set {name : String} {v : Option Value} {b' : Builder}
    (h : b.set name v = .ok b') : b'.descriptor = b.descriptor := by
  obtain ⟨p, slot, w, _, _, rfl⟩ := set_eq_ok.mp h
  rfl

theorem exists_set_of_setText {name text : String} {b' : Builder}
    (h : b.setText name text = .ok b') :
    ∃ v, (Call.setText name text).offered? b.descriptor = some (some v) ∧
      b.set name (some v) = .ok b' := by
  unfold setText at h
  obtain ⟨⟨p, slot⟩, hbuildable, h⟩ := bind_eq_ok.mp h
  simp only at h
  split at h
  · rename_i v hread
    refine ⟨v, ?_, h⟩
    simp only [Call.offered?, (buildable_eq_ok.mp hbuildable).1, hread, Option.bind_eq_bind,
      Option.bind_some, Except.toOption]
    rfl
  · cases h

theorem setText_of_offered {name text : String} {v : Option Value}
    (h : (Call.setText name text).offered? b.descriptor = some v) :
    b.setText name text = b.set name v := by
  obtain ⟨p, hfind, h⟩ := Option.bind_eq_some_iff.mp h
  obtain ⟨w, hread, h⟩ := Option.bind_eq_some_iff.mp h
  cases h
  unfold setText set
  cases hbuildable : b.buildable name with
  | error e => rfl
  | ok x =>
    obtain ⟨q, slot⟩ := x
    cases (buildable_eq_ok.mp hbuildable).1.symm.trans hfind
    simp only [bind, Except.bind, toOption_eq_some.mp hread]

theorem call_of_offered {c : Call} {name : String} {v : Option Value} (hsets : c.Sets name)
    (hoffered : c.offered? b.descriptor = some v) : b.call c = b.settle (b.set name v) := by
  cases c with
  | set n w =>
    cases hsets
    cases hoffered
    rfl
  | setText n text =>
    cases hsets
    rw [call, setText_of_offered hoffered]
  | get n => cases hsets

/-- A call sets a property to what it offers, or else it leaves the builder as it is. -/
theorem call_cases (b : Builder) (c : Call) : ((b.call c).1 ≠ .done ∧ (b.call c).2 = b) ∨
    ∃ name v, c.Sets name ∧ c.offered? b.descriptor = some v ∧ (b.call c).1 = .done ∧
      b.set name v = .ok (b.call c).2 := by
  cases c with
  | set name v =>
    simp only [call]
    cases hset : b.set name v with
    | error e => exact .inl ⟨nofun, rfl⟩
    | ok b' => exact .inr ⟨name, v, rfl, rfl, rfl, hset⟩
  | setText name text =>
    simp only [call]
    cases hset : b.setText name text with
    | error e => exact .inl ⟨nofun, rfl⟩
    | ok b' =>
      obtain ⟨v, hoffered, hv⟩ := exists_set_of_setText hset
      exact .inr ⟨name, some v, rfl, hoffered, rfl, hv⟩
  | get name =>
    simp only [call]
    cases b.get name <;> exact .inl ⟨nofun, rfl⟩

theorem descriptor_call (b : Builder) (c : Call) : (b.call c).2.descriptor = b.descriptor := by
  rcases b.call_cases c with ⟨_, hsame⟩ | ⟨name, v, _, _, _, hset⟩
  · rw [hsame]
  · exact descriptor_of_set hset

/-! ### Calls that are refused -/

variable {name : String} {e : BeanError}

theorem eq_error_of_settle {x : Except BeanError Builder} (h : (b.settle x).1 = .refused e) :
    x = .error e := by
  cases x with
  | error e' =>
    cases h
    rfl
  | ok b' => cases h

theorem kind_of_buildable (h : b.buildable name = .error e) :
    e.kind ∈ ["UnknownProperty", "NotWritable"] := by
  unfold buildable at h
  split at h
  · cases h
    exact List.mem_cons_self
  · split at h
    · cases h
    · cases h
      exact List.mem_cons_of_mem _ List.mem_cons_self

theorem kind_of_set {v : Option Value} (h : b.set name v = .error e) :
    e.kind ∈ ["UnknownProperty", "NotWritable", "TypeMismatch"] := by
  rcases bind_eq_error.mp h with h | ⟨⟨p, slot⟩, _, h⟩
  · exact List.mem_append_left ["TypeMismatch"] (kind_of_buildable h)
  · rcases bind_eq_error.mp h with h | ⟨w, _, h⟩
    · rw [Property.kind_of_accept? h]
      decide
    · cases h

theorem kind_of_setText {text : String} (h : b.setText name text = .error e) :
    e.kind ∈ ["UnknownProperty", "NotWritable", "TypeMismatch", "ParseError"] := by
  rcases bind_eq_error.mp h with h | ⟨⟨p, slot⟩, _, h⟩
  · exact List.mem_append_left ["TypeMismatch", "ParseError"] (kind_of_buildable h)
  · simp only at h
    split at h
    · exact List.mem_append_left ["ParseError"] (kind_of_set h)
    · cases h
      simp [BeanError.kind]

theorem kind_of_get (h : b.get name = .error e) : e.kind ∈ ["UnknownProperty", "NotWritable"] := by
  rcases bind_eq_error.mp h with h | ⟨⟨p, slot⟩, _, h⟩
  · exact kind_of_buildable h
  · cases h

theorem kind_of_refused {c : Call} (h : (b.call c).1 = .refused e) :
    e.kind ∈ ["UnknownProperty", "NotWritable", "TypeMismatch", "ParseError"] := by
  cases c with
  | set n v => exact List.mem_append_left ["ParseError"] (kind_of_set (eq_error_of_settle h))
  | setText n text => exact kind_of_setText (eq_error_of_settle h)
  | get n =>
    simp only [call] at h
    cases hget : b.get n with
    | ok v =>
      rw [hget] at h
      cases h
    | error e' =>
      rw [hget] at h
      cases h
      exact List.mem_append_left ["TypeMismatch", "ParseError"] (kind_of_get hget)

theorem call_of_refused {c : Call} (h : (b.call c).1 = .refused e) : (b.call c).2 = b := by
  rcases b.call_cases c with ⟨_, hsame⟩ | ⟨_, _, _, _, hdone, _⟩
  · exact hsame
  · rw [hdone] at h
    cases h

/-! ### Runs -/

/-- What holds of a builder and is preserved by setting values holds after every run. -/
theorem run_preserves {P : Builder → Prop}
    (hset : ∀ b name v b', P b → b.set name v = .ok b' → P b') (hb : P b) (calls : List Call) :
    P (b.run calls).2 := by
  have hsettle {b : Builder} {x : Except BeanError Builder} (hb : P b)
      (hx : ∀ b', x = .ok b' → P b') : P (b.settle x).2 := by
    cases x with
    | error e => exact hb
    | ok b' => exact hx b' rfl
  induction calls generalizing b with
  | nil => exact hb
  | cons c calls ih =>
    apply ih
    cases c with
    | set name v => exact hsettle hb fun b' h => hset b name v b' hb h
    | setText name text =>
      refine hsettle hb fun b' h => ?_
      obtain ⟨v, _, hv⟩ := exists_set_of_setText h
      exact hset b name (some v) b' hb hv
    | get name =>
      simp only [call]
      cases b.get name <;> exact hb

theorem descriptor_run (b : Builder) (calls : List Call) :
    (b.run calls).2.descriptor = b.descriptor :=
  run_preserves (P := fun b' => b'.descriptor = b.descriptor)
    (fun _ _ _ _ hb hset => (descriptor_of_set hset).trans hb) rfl calls

theorem length_run (b : Builder) (calls : List Call) :
    (b.run calls).2.slots.length = b.slots.length := by
  refine run_preserves (P := fun b' => b'.slots.length = b.slots.length) ?_ rfl calls
  intro b₁ name v b₂ hb hset
  obtain ⟨p, slot, w, _, _, rfl⟩ := set_eq_ok.mp hset
  rw [List.length_set, hb]

/-- Builders that answer each call alike and stay related answer whole runs alike. -/
theorem run_related {R : Builder → Builder → Prop}
    (hset : ∀ b c, R b c → ∀ name v, SameOutcome R (b.set name v) (c.set name v))
    (htext : ∀ b c, R b c → ∀ name text, SameOutcome R (b.setText name text) (c.setText name text))
    (hget : ∀ b c, R b c → ∀ name, b.get name = c.get name) (hbc : R b c) (calls : List Call) :
    (b.run calls).1 = (c.run calls).1 ∧ R (b.run calls).2 (c.run calls).2 := by
  have hsettle {b c : Builder} {x y : Except BeanError Builder} (hbc : R b c)
      (hxy : SameOutcome R x y) :
      (b.settle x).1 = (c.settle y).1 ∧ R (b.settle x).2 (c.settle y).2 := by
    cases hxy with
    | error e => exact ⟨rfl, hbc⟩
    | ok h => exact ⟨rfl, h⟩
  induction calls generalizing b c with
  | nil => exact ⟨rfl, hbc⟩
  | cons call calls ih =>
    have hcall : (b.call call).1 = (c.call call).1 ∧ R (b.call call).2 (c.call call).2 := by
      cases call with
      | set name v => exact hsettle hbc (hset b c hbc name v)
      | setText name text => exact hsettle hbc (htext b c hbc name text)
      | get name =>
        simp only [Builder.call, hget b c hbc name]
        cases c.get name <;> exact ⟨rfl, hbc⟩
    obtain ⟨hanswers, hlast⟩ := ih hcall.2
    exact ⟨congrArg₂ List.cons hcall.1 hanswers, hlast⟩

end Beans.Builder
