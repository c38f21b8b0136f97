/-!
# Entries

Maps from text keys that remember the order in which their keys were first put. They are lists of
pairs, read from the front, so that a map and its order are one piece of data.

- `Entries.get?`: the value of a key, with `get?_put` for the map after a change
- `Entries.put`, `Entries.update`: setting one entry, or all entries of another map
- `Entries.sorted`: the same entries in the order of their keys
-/

namespace FlinkSteward

/-- Pairs of a key and a value, in the order of insertion. -/
abbrev Entries (β : Type) := List (String × β)

namespace Entries

variable {β γ : Type}

/-- The value of a key. -/
def get? : Entries β → String → Option β
  | [], _ => none
  | (k, v) :: rest, key => if k = key then some v else get? rest key

/-- Whether there is an entry for a key. -/
def has (m : Entries β) (key : String) : Bool :=
  (get? m key).isSome

/-- Sets the value of a key, at its place if it has one and at the end if not. -/
def put : Entries β → String → β → Entries β
  | [], key, value => [(key, value)]
  | (k, v) :: rest, key, value =>
    if k = key then (k, value) :: rest else (k, v) :: put rest key value

/-- Sets all entries of `n`, in their order. -/
def update (m n : Entries β) : Entries β :=
  n.foldl (fun m e => put m e.1 e.2) m

/-- Sets the value of a key that has none. -/
def putNew (m : Entries β) (key : String) (value : β) : Entries β :=
  if has m key then m else put m key value

/-- The keys in order. -/
def keys (m : Entries β) : List String :=
  m.map Prod.fst

/-- The map with each value replaced by its image. -/
def mapValues (f : β → γ) (m : Entries β) : Entries γ :=
  m.map fun e => (e.1, f e.2)

/-- The map that pairs, put one after the other, make. -/
def ofPairs (pairs : List (String × β)) : Entries β :=
  update [] pairs

/-- Puts a pair in front of the first one whose key is not less. -/
def insertSorted (e : String × β) : Entries β → Entries β
  | [] => [e]
  | d :: rest => if d.1 < e.1 then d :: insertSorted e rest else e :: d :: rest

/-- The same entries in the order of their keys, by code point. -/
def sorted (m : Entries β) : Entries β :=
  m.foldr insertSorted []

@[simp] theorem get?_nil (key : String) : get? ([] : Entries β) key = none := rfl

theorem get?_put_self (m : Entries β) (key : String) (value : β) :
    get? (put m key value) key = some value := by
  induction m with
  | nil => simp [put, get?]
  | cons e rest ih => by_cases h : e.1 = key <;> simp [put, get?, h, ih]

theorem get?_put_of_ne {key other : String} (m : Entries β) (value : β) (h : key ≠ other) :
    get? (put m key value) other = get? m other := by
  induction m with
  | nil => simp [put, get?, h]
  | cons e rest ih =>
    by_cases hk : e.1 = key
    · simp [put, get?, hk, h]
    · by_cases ho : e.1 = other
      · subst ho; simp [put, get?, hk]
      · simp [put, get?, hk, ho, ih]

/-- After `put`, the key has the new value and every other key what it had. -/
theorem get?_put (m : Entries β) (key other : String) (value : β) :
    get? (put m key value) other = if key = other then some value else get? m other := by
  split
  · subst_vars; exact get?_put_self m _ value
  · exact get?_put_of_ne m value ‹_›

theorem get?_mapValues (f : β → γ) (m : Entries β) (key : String) :
    get? (mapValues f m) key = (get? m key).map f := by
  induction m with
  | nil => rfl
  | cons e rest ih => by_cases h : e.1 = key <;> simp_all [mapValues, get?]

end Entries

end FlinkSteward
