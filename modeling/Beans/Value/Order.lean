import Beans.Value.Equality
/-!
# Order of values

Values of one type are ordered if the type is: scalars by size, texts by their characters, an absent
content before a present one, lists and sorted sets by the first element that differs. Leaves are in the
order of their type, if it has one. Maps, hashed sets and beans have no order, nor has what is not a
number.
-/

set_option autoImplicit false

namespace Beans

def ScalarValue.compare? : ScalarValue → ScalarValue → Option Ordering
  | bool a, bool b => some (compare a.toNat b.toNat)
  | char a, char b => some (compare a.toNat b.toNat)
  | int k a, int l b => if k = l then some (compare a b) else none
  | float f a, float g b => if f = g then f.compare? a b else none
  | string a, string b => some (compareOfLessAndEq a b)
  | _, _ => none

namespace Value

variable [Traits]

mutual

/-- The order of two values, or `none` if they have none. -/
def compare? : Value → Value → Option Ordering
  | scalar a, scalar b => a.compare? b
  | leaf s a, leaf t b => if s = t then (Traits.leaf s).order?.map (· a b) else none
  | option s a, option t b => if s = t then compareContent? a b else none
  | list s a, list t b => if s = t then compareItems? a b else none
  | set storage s a, set storage' t b =>
    if storage = .sorted ∧ storage' = .sorted ∧ s = t then compareItems? a b else none
  | _, _ => none

def compareContent? : Option Value → Option Value → Option Ordering
  | none, none => some .eq
  | none, some _ => some .lt
  | some _, none => some .gt
  | some a, some b => a.compare? b

/-- The first elements that are not equal decide, also if they have no order. -/
def compareItems? : List Value → List Value → Option Ordering
  | [], [] => some .eq
  | [], _ :: _ => some .lt
  | _ :: _, [] => some .gt
  | a :: as, b :: bs =>
    match a.compare? b with
    | some .eq => compareItems? as bs
    | r => r

end

/-! ### Sets and maps by their keys -/

/-- Puts a value into a list sorted by `compare?`. A value equal to it is kept in its place. -/
def insertSorted (v : Value) : List Value → List Value
  | [] => [v]
  | w :: rest =>
    match v.compare? w with
    | some .lt => v :: w :: rest
    | some .eq => w :: rest
    | _ => w :: insertSorted v rest

/-- Puts an entry into a list sorted by its keys. An entry under an equal key gets the new value. -/
def insertSortedEntry (k v : Value) : List (Value × Value) → List (Value × Value)
  | [] => [(k, v)]
  | (l, w) :: rest =>
    match k.compare? l with
    | some .lt => (k, v) :: (l, w) :: rest
    | some .eq => (l, v) :: rest
    | _ => (l, w) :: insertSortedEntry k v rest

def insertHashed (v : Value) (items : List Value) : List Value :=
  if items.any (v.equal ·) then items else items ++ [v]

def insertHashedEntry (k v : Value) : List (Value × Value) → List (Value × Value)
  | [] => [(k, v)]
  | (l, w) :: rest => if k.equal l then (l, v) :: rest else (l, w) :: insertHashedEntry k v rest

def setOf (storage : Storage) (item : Ty) (items : List Value) : Value :=
  .set storage item <| items.foldl (fun acc v =>
    match storage with
    | .sorted => insertSorted v acc
    | .hashed => insertHashed v acc) []

/-- The map of the entries, of which a later one replaces an earlier one under the same key. -/
def mapOf (storage : Storage) (key value : Ty) (entries : List (Value × Value)) : Value :=
  .map storage key value <| entries.foldl (fun acc e =>
    match storage with
    | .sorted => insertSortedEntry e.1 e.2 acc
    | .hashed => insertHashedEntry e.1 e.2 acc) []

end Value

end Beans
