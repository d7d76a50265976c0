import Beans.Proofs.Assembly
/-!
# Arguments that are taken out

The arguments of a constructor are taken out by any sequence of calls, at any positions and types. What a
call finds depends on whether another one came to its position before: the first one empties the place, and
those behind it find null. So no argument is handed out twice. A call that finds nothing or null leaves
everything as it was, but one that asks for another type takes the argument out all the same.
-/

set_option autoImplicit false

namespace Beans.Arguments

structure Call where
  type : Ty
  index : Nat
  allowsNull : Bool

abbrev Answer := Except MemberError (Option Value)

def Answer.value? : Answer → Option Value
  | .ok v => v
  | .error _ => none

def call (a : Arguments) (c : Call) : Answer × Arguments :=
  (if c.allowsNull then take? c.type c.index else some <$> take c.type c.index) a

def run (a : Arguments) : List Call → List Answer × Arguments
  | [] => ([], a)
  | c :: calls =>
    let rest := (a.call c).2.run calls
    ((a.call c).1 :: rest.1, rest.2)

/-- The positions and values of the arguments that some calls are handed out. -/
def handedOut (a : Arguments) (calls : List Call) : List (Nat × Value) :=
  (calls.zip (a.run calls).1).filterMap fun x => x.2.value?.map (x.1.index, ·)

variable {a : Arguments} {c : Call} {before calls : List Call} {i : Nat} {v : Value}

/-! ### One call -/

theorem take_apply (type : Ty) (index : Nat) (a : Arguments) :
    (some <$> take type index : TakeM (Option Value)) a =
      ((take? type index a).1.bind fun v =>
          v.elim (.error (.nullArgument (take? type index a).2.bean index)) (.ok ∘ some),
        (take? type index a).2) := by
  have hmap : (some <$> take type index : TakeM (Option Value)) =
      take? type index >>= fun v => v.elim
        (getThe Arguments >>= fun b => throw (.nullArgument b.bean index)) (pure ∘ some) := by
    unfold take
    rw [map_bind]
    congr 1
    funext v
    cases v <;> rfl
  rw [hmap]
  cases h : take? type index a with
  | mk r b =>
    cases r with
    | error e => exact Stateful.bind_of_error h
    | ok v =>
      rw [Stateful.bind_of_ok h]
      cases v <;> rfl

theorem call_of_missing (h : a.slots[c.index]? = none) :
    a.call c = (.error (.missingArgument a.bean c.index a.size), a) := by
  have htake : take? c.type c.index a = (.error (.missingArgument a.bean c.index a.size), a) := by
    rw [take?, h]
  unfold call
  split
  · exact htake
  · rw [take_apply, htake]
    rfl

theorem call_of_null (h : a.slots[c.index]? = some none) :
    a.call c = (if c.allowsNull then .ok none else .error (.nullArgument a.bean c.index), a) := by
  have htake : take? c.type c.index a = (.ok none, a) := by
    rw [take?, h]
  unfold call
  split
  · exact htake
  · rw [take_apply, htake]
    rfl

theorem call_of_value (h : a.slots[c.index]? = some (some v)) :
    a.call c = (if v.type = c.type then .ok (some v)
      else .error (.wrongArgument a.bean c.index c.type v.type), a.without c.index) := by
  have htake : take? c.type c.index a = (if v.type = c.type then .ok (some v)
      else .error (.wrongArgument a.bean c.index c.type v.type), a.without c.index) := by
    rw [take?, h]
    by_cases htype : v.type = c.type
    · simp only [htype, if_true]
      rfl
    · simp only [htype, if_false]
      rfl
  unfold call
  split
  · exact htake
  · rw [take_apply, htake]
    by_cases htype : v.type = c.type
    · simp only [htype, if_true]
      rfl
    · simp only [htype, if_false]
      rfl

/-- The three things that a call may find. -/
theorem call_cases (a : Arguments) (c : Call) :
    a.slots[c.index]? = none ∨ a.slots[c.index]? = some none ∨
      ∃ v, a.slots[c.index]? = some (some v) := by
  cases h : a.slots[c.index]? with
  | none => exact .inl rfl
  | some slot =>
    cases slot with
    | none => exact .inr (.inl rfl)
    | some v => exact .inr (.inr ⟨v, rfl⟩)

theorem bean_call (a : Arguments) (c : Call) : (a.call c).2.bean = a.bean := by
  rcases call_cases a c with h | h | ⟨v, h⟩
  · rw [call_of_missing h]
  · rw [call_of_null h]
  · rw [call_of_value h]
    rfl

theorem size_call (a : Arguments) (c : Call) : (a.call c).2.size = a.size := by
  rcases call_cases a c with h | h | ⟨v, h⟩
  · rw [call_of_missing h]
  · rw [call_of_null h]
  · rw [call_of_value h]
    exact List.length_set

theorem slots_call (a : Arguments) (c : Call) (i : Nat) :
    (a.call c).2.slots[i]? = if c.index = i then a.slots[i]?.map fun _ => none else a.slots[i]? := by
  by_cases hi : c.index = i
  · subst hi
    rw [if_pos rfl]
    rcases call_cases a c with h | h | ⟨v, h⟩
    · rw [call_of_missing h, h]
      rfl
    · rw [call_of_null h, h]
      rfl
    · obtain ⟨hlt, -⟩ := List.getElem?_eq_some_iff.mp h
      rw [call_of_value h, h]
      exact List.getElem?_set_self hlt
  · rw [if_neg hi]
    rcases call_cases a c with h | h | ⟨v, h⟩
    · rw [call_of_missing h]
    · rw [call_of_null h]
    · rw [call_of_value h]
      exact List.getElem?_set_ne hi

theorem value?_call :
    (a.call c).1.value? = some v ↔ a.slots[c.index]? = some (some v) ∧ v.type = c.type := by
  rcases call_cases a c with h | h | ⟨w, h⟩
  · rw [call_of_missing h, h]
    simp [Answer.value?]
  · rw [call_of_null h, h]
    cases c.allowsNull <;> simp [Answer.value?]
  · rw [call_of_value h, h]
    by_cases htype : w.type = c.type
    · simp only [htype, if_true, Answer.value?, Option.some.injEq]
      constructor
      · rintro rfl
        exact ⟨rfl, htype⟩
      · exact fun hv => hv.1
    · simp only [htype, if_false, Answer.value?, Option.some.injEq, false_iff, reduceCtorEq]
      rintro ⟨rfl, hv⟩
      exact htype hv

/-! ### Runs -/

theorem bean_run (a : Arguments) (calls : List Call) : (a.run calls).2.bean = a.bean := by
  induction calls generalizing a with
  | nil => rfl
  | cons c calls ih => exact (ih (a.call c).2).trans (a.bean_call c)

theorem size_run (a : Arguments) (calls : List Call) : (a.run calls).2.size = a.size := by
  induction calls generalizing a with
  | nil => rfl
  | cons c calls ih => exact (ih (a.call c).2).trans (a.size_call c)

theorem slots_run (a : Arguments) (calls : List Call) (i : Nat) :
    (a.run calls).2.slots[i]? =
      if i ∈ calls.map (·.index) then a.slots[i]?.map fun _ => none else a.slots[i]? := by
  induction calls generalizing a with
  | nil => simp [run]
  | cons c calls ih =>
    change ((a.call c).2.run calls).2.slots[i]? = _
    rw [ih, slots_call]
    by_cases hi : c.index = i
    · by_cases hcalls : i ∈ calls.map (·.index) <;> simp [hi, hcalls, Function.comp_def]
    · by_cases hcalls : i ∈ calls.map (·.index) <;> simp [Ne.symm hi, hi, hcalls]

theorem answer_run (a : Arguments) (before after : List Call) (c : Call) :
    (a.run (before ++ c :: after)).1[before.length]? = some ((a.run before).2.call c).1 := by
  induction before generalizing a with
  | nil => rfl
  | cons d before ih => exact ih (a.call d).2

theorem left_run (a : Arguments) (before : List Call) (c : Call) :
    (a.run (before ++ [c])).2 = ((a.run before).2.call c).2 := by
  induction before generalizing a with
  | nil => rfl
  | cons d before ih => exact ih (a.call d).2

/-! ### What is handed out -/

theorem handedOut_cons (a : Arguments) (c : Call) (calls : List Call) :
    a.handedOut (c :: calls) =
      ((a.call c).1.value?.map (c.index, ·)).toList ++ (a.call c).2.handedOut calls := by
  unfold handedOut
  rw [run, List.zip_cons_cons, List.filterMap_cons]
  cases (a.call c).1.value? <;> rfl

theorem slot_of_mem_handedOut (h : (i, v) ∈ a.handedOut calls) : a.slots[i]? = some (some v) := by
  induction calls generalizing a with
  | nil => cases h
  | cons c calls ih =>
    rw [handedOut_cons, List.mem_append, Option.mem_toList, Option.map_eq_some_iff] at h
    rcases h with ⟨w, hw, hpair⟩ | h
    · cases hpair
      exact (value?_call.mp hw).1
    · have hslot := ih h
      rw [slots_call] at hslot
      split at hslot
      · simp at hslot
      · exact hslot

theorem nodup_handedOut (a : Arguments) (calls : List Call) :
    ((a.handedOut calls).map (·.1)).Nodup := by
  induction calls generalizing a with
  | nil => exact List.nodup_nil
  | cons c calls ih =>
    rw [handedOut_cons]
    cases (a.call c).1.value? with
    | none => exact ih (a.call c).2
    | some v =>
      apply List.nodup_cons.mpr
      refine ⟨?_, ih (a.call c).2⟩
      intro hmem
      obtain ⟨⟨i, w⟩, hw, rfl⟩ := List.mem_map.mp hmem
      have hslot := slot_of_mem_handedOut hw
      rw [slots_call, if_pos rfl] at hslot
      simp at hslot

/-! ### What a call comes to -/

/-- What a call comes to after some others, by its answer and by what is left. -/
structure Extraction (a : Arguments) (before : List Call) (c : Call) (r : Answer) (left : Arguments) :
    Prop where
  /-- An argument is handed out to the first call at its position, if that asks for its type. -/
  handed : ∀ v, r = .ok (some v) ↔
    a.slots[c.index]? = some (some v) ∧ v.type = c.type ∧ c.index ∉ before.map (·.index)
  missing : a.size ≤ c.index →
    r = .error (.missingArgument a.bean c.index a.size) ∧ left = (a.run before).2
  null : (a.run before).2.slots[c.index]? = some none →
    r = (if c.allowsNull then .ok none else .error (.nullArgument a.bean c.index)) ∧
      left = (a.run before).2
  /-- A call that asks for another type is not handed the argument, but takes it. -/
  wrong : ∀ v, (a.run before).2.slots[c.index]? = some (some v) → v.type ≠ c.type →
    r = .error (.wrongArgument a.bean c.index c.type v.type) ∧
      left = (a.run before).2.without c.index
  /-- No other failure takes anything. -/
  failed : ∀ e, r = .error e → left = (a.run before).2 ∨
    ∃ v, (a.run before).2.slots[c.index]? = some (some v) ∧ v.type ≠ c.type
  others : ∀ i, i ≠ c.index → left.slots[i]? = (a.run before).2.slots[i]?

theorem answer_eq_ok {r : Answer} : r = .ok (some v) ↔ r.value? = some v := by
  cases r with
  | error e => exact ⟨nofun, nofun⟩
  | ok w => simp [Answer.value?]

theorem slot_first :
    (a.run before).2.slots[i]? = some (some v) ↔
      a.slots[i]? = some (some v) ∧ i ∉ before.map (·.index) := by
  rw [slots_run]
  by_cases hi : i ∈ before.map (·.index) <;> simp [hi]

theorem extraction_call (a : Arguments) (before : List Call) (c : Call) :
    a.Extraction before c ((a.run before).2.call c).1 ((a.run before).2.call c).2 := by
  constructor
  case handed =>
    intro v
    rw [answer_eq_ok, value?_call, slot_first]
    tauto
  case missing =>
    intro h
    have hsize : (a.run before).2.size ≤ c.index := (a.size_run before).symm ▸ h
    rw [call_of_missing (List.getElem?_eq_none hsize), bean_run, size_run]
    exact ⟨rfl, rfl⟩
  case null =>
    intro h
    rw [call_of_null h, bean_run]
    exact ⟨rfl, rfl⟩
  case wrong =>
    intro v h htype
    rw [call_of_value h, if_neg htype, bean_run]
    exact ⟨rfl, rfl⟩
  case failed =>
    intro e he
    rcases call_cases (a.run before).2 c with h | h | ⟨v, h⟩
    · rw [call_of_missing h]
      exact .inl rfl
    · rw [call_of_null h]
      exact .inl rfl
    · refine .inr ⟨v, h, fun htype => ?_⟩
      rw [call_of_value h, if_pos htype] at he
      cases he
  case others =>
    intro i hi
    rw [slots_call, if_neg (Ne.symm hi)]

/-- No sequence of calls is handed an argument twice, and what is handed out is what stood there. A call
that fails for its position or for null leaves everything as it was, and one that fails for the type empties
its own place: so a later call gets an argument exactly if it is the first one that comes to it. -/
theorem run_extracts (a : Arguments) :
    (∀ calls, ((a.handedOut calls).map (·.1)).Nodup ∧
      ∀ x ∈ a.handedOut calls, a.slots[x.1]? = some (some x.2)) ∧
    ∀ before c after, ∃ r left, (a.run (before ++ c :: after)).1[before.length]? = some r ∧
      (a.run (before ++ [c])).2 = left ∧ a.Extraction before c r left := by
  constructor
  · intro calls
    exact ⟨a.nodup_handedOut calls, fun x hx => slot_of_mem_handedOut hx⟩
  · intro before c after
    exact ⟨_, _, a.answer_run before after c, a.left_run before c, a.extraction_call before c⟩

/-- A byte is lost to a call that asks for a text: it is left nowhere, and a call that asks for a byte
finds null. -/
theorem byte_lost :
    let a : Arguments := ⟨"demo::Pair", [some (.ofInt .u8 1)]⟩
    let text : Call := ⟨.string, 0, false⟩
    let byte : Call := ⟨.int .u8, 0, false⟩
    (a.call text).1 = .error (.wrongArgument "demo::Pair" 0 .string (.int .u8)) ∧
      (a.call text).2.slots ≠ a.slots ∧
      (a.call byte).1 = .ok (some (.ofInt .u8 1)) ∧
      ((a.call text).2.call byte).1 = .error (.nullArgument "demo::Pair" 0) := by
  intro a text byte
  refine ⟨rfl, ?_, rfl, rfl⟩
  intro h
  cases h

end Beans.Arguments
