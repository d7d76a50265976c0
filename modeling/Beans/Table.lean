/-!
# Tables

A table holds entries under different keys, in the order in which the keys came. `insert` replaces the
value of a key that is there, `insertIfNew` and `getOrInsert` leave it alone. `get?` is the view of a
table.
-/

set_option autoImplicit false

namespace Beans

universe u v

structure Table (κ : Type u) (α : Type v) where
  entries : List (κ × α)

namespace Table

variable {κ : Type u} {α : Type v} [DecidableEq κ]

instance : EmptyCollection (Table κ α) := ⟨⟨[]⟩⟩

instance : Inhabited (Table κ α) := ⟨∅⟩

def get? (t : Table κ α) (k : κ) : Option α :=
  (t.entries.find? (·.1 = k)).map (·.2)

def contains (t : Table κ α) (k : κ) : Bool :=
  (t.get? k).isSome

def size (t : Table κ α) : Nat :=
  t.entries.length

def isEmpty (t : Table κ α) : Bool :=
  t.entries.isEmpty

def keys (t : Table κ α) : List κ :=
  t.entries.map (·.1)

def values (t : Table κ α) : List α :=
  t.entries.map (·.2)

/-- Puts a value under a key, in place of the one that is there. -/
def insert (t : Table κ α) (k : κ) (v : α) : Table κ α :=
  ⟨go t.entries⟩
where
  go : List (κ × α) → List (κ × α)
    | [] => [(k, v)]
    | e :: rest => if e.1 = k then (k, v) :: rest else e :: go rest

/-- Puts a value under a key that has none. -/
def insertIfNew (t : Table κ α) (k : κ) (v : α) : Table κ α :=
  if t.contains k then t else t.insert k v

/-- The value under a key, after a key that has none got the given one. -/
def getOrInsert (t : Table κ α) (k : κ) (v : α) : α × Table κ α :=
  match t.get? k with
  | some w => (w, t)
  | none => (v, t.insert k v)

/-! ### What the operations do to the view -/

private theorem find?_insert_go (l : List (κ × α)) (k k' : κ) (v : α) :
    ((insert.go k v l).find? (·.1 = k')).map (·.2) =
      if k = k' then some v else (l.find? (·.1 = k')).map (·.2) := by
  induction l with
  | nil => by_cases h : k = k' <;> simp [insert.go, h]
  | cons e rest ih =>
    by_cases he : e.1 = k
    · subst he
      by_cases h : e.1 = k' <;> simp [insert.go, h]
    · have step : insert.go k v (e :: rest) = e :: insert.go k v rest := by simp [insert.go, he]
      rw [step, List.find?_cons, List.find?_cons]
      by_cases h' : e.1 = k'
      · have : k ≠ k' := fun h => he (h'.trans h.symm)
        simp [h', this]
      · simpa [h'] using ih

theorem get?_insert (t : Table κ α) (k k' : κ) (v : α) :
    (t.insert k v).get? k' = if k = k' then some v else t.get? k' :=
  find?_insert_go t.entries k k' v

@[simp] theorem get?_insert_self (t : Table κ α) (k : κ) (v : α) :
    (t.insert k v).get? k = some v := by
  simp [get?_insert]

theorem size_insert_of_new {t : Table κ α} {k : κ} (h : t.get? k = none) (v : α) :
    (t.insert k v).size = t.size + 1 := by
  have hgo (l : List (κ × α)) (hl : ∀ e ∈ l, e.1 ≠ k) : (insert.go k v l).length = l.length + 1 := by
    induction l with
    | nil => rfl
    | cons e rest ih =>
      obtain ⟨he, hrest⟩ := List.forall_mem_cons.mp hl
      simp only [insert.go, if_neg he, List.length_cons, ih hrest]
  apply hgo
  simpa [get?] using h

theorem get?_insertIfNew (t : Table κ α) (k k' : κ) (v : α) :
    (t.insertIfNew k v).get? k' = if k = k' then (t.get? k).or (some v) else t.get? k' := by
  by_cases h : k = k'
  · subst h
    cases hk : t.get? k <;> simp [insertIfNew, contains, hk]
  · by_cases hk : t.contains k <;> simp [insertIfNew, hk, get?_insert, h]

end Table

end Beans
