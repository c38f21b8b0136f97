import FlinkSteward.Entries
import FlinkSteward.Number.Basic

/-!
# Values

The data of manifests, of requests and of answers: null, booleans, integers, doubles, texts, lists,
and maps from texts whose entries keep their order.

- `Value`: the type, with decidable equality of the ordered data
- `Value.Sound`: no map has two entries for one key
- `Value.number?`: the number a value stands for; true is one and false is zero
-/

namespace FlinkSteward

/-- A tree of data. -/
inductive Value where
  /-- Nothing. -/
  | null
  /-- A truth value. -/
  | bool (b : Bool)
  /-- An integer of any size. -/
  | int (i : Int)
  /-- A double. -/
  | real (x : Double)
  /-- A text. -/
  | text (s : String)
  /-- A list of values. -/
  | list (items : List Value)
  /-- A map with its entries in order. -/
  | map (fields : List (String × Value))
deriving Inhabited

namespace Value

mutual

/-- Whether two values are the same ordered data. -/
def beq : Value → Value → Bool
  | null, null => true
  | bool a, bool b => a = b
  | int a, int b => a = b
  | real a, real b => a = b
  | text a, text b => a = b
  | list a, list b => beqList a b
  | map a, map b => beqFields a b
  | _, _ => false

/-- Whether two lists are the same ordered data. -/
def beqList : List Value → List Value → Bool
  | [], [] => true
  | a :: as, b :: bs => beq a b && beqList as bs
  | _, _ => false

/-- Whether two lists of fields are the same ordered data. -/
def beqFields : List (String × Value) → List (String × Value) → Bool
  | [], [] => true
  | (k, a) :: as, (l, b) :: bs => decide (k = l) && (beq a b && beqFields as bs)
  | _, _ => false

end

mutual

theorem eq_of_beq : ∀ {a b : Value}, beq a b = true → a = b
  | null, b, h => by cases b <;> simp_all [beq]
  | bool _, b, h => by cases b <;> simp_all [beq]
  | int _, b, h => by cases b <;> simp_all [beq]
  | real _, b, h => by cases b <;> simp_all [beq]
  | text _, b, h => by cases b <;> simp_all [beq]
  | list as, b, h => by
    cases b <;> simp only [beq, Bool.false_eq_true] at h
    rw [eq_of_beqList h]
  | map as, b, h => by
    cases b <;> simp only [beq, Bool.false_eq_true] at h
    rw [eq_of_beqFields h]

theorem eq_of_beqList : ∀ {as bs : List Value}, beqList as bs = true → as = bs
  | [], bs, h => by cases bs <;> simp_all [beqList]
  | a :: as, bs, h => by
    cases bs <;> simp only [beqList, Bool.false_eq_true, Bool.and_eq_true] at h
    rw [eq_of_beq h.1, eq_of_beqList h.2]

theorem eq_of_beqFields : ∀ {as bs : List (String × Value)}, beqFields as bs = true → as = bs
  | [], bs, h => by cases bs <;> simp_all [beqFields]
  | (k, a) :: as, bs, h => by
    cases bs <;>
      simp only [beqFields, Bool.false_eq_true, Bool.and_eq_true, decide_eq_true_eq] at h
    rw [h.1, eq_of_beq h.2.1, eq_of_beqFields h.2.2]

end

mutual

theorem beq_self : ∀ a : Value, beq a a = true
  | null | bool _ | int _ | real _ | text _ => by simp [beq]
  | list as => by simp [beq, beqList_self as]
  | map as => by simp [beq, beqFields_self as]

theorem beqList_self : ∀ as : List Value, beqList as as = true
  | [] => by simp [beqList]
  | a :: as => by simp [beqList, beq_self a, beqList_self as]

theorem beqFields_self : ∀ as : List (String × Value), beqFields as as = true
  | [] => by simp [beqFields]
  | (_, a) :: as => by simp [beqFields, beq_self a, beqFields_self as]

end

instance : DecidableEq Value := fun a b =>
  if h : beq a b = true then isTrue (eq_of_beq h)
  else isFalse fun e => h (e ▸ beq_self a)

mutual

/-- Whether no map in a value has two entries for one key. -/
def Sound : Value → Prop
  | list items => SoundList items
  | map fields => SoundFields fields
  | _ => True

/-- Whether all values of a list are sound. -/
def SoundList : List Value → Prop
  | [] => True
  | v :: rest => Sound v ∧ SoundList rest

/-- Whether no key is repeated, and all values of the fields are sound. -/
def SoundFields : List (String × Value) → Prop
  | [] => True
  | (k, v) :: rest => Entries.get? rest k = none ∧ Sound v ∧ SoundFields rest

end

/-- The name of a value's kind in messages. -/
def kind : Value → String
  | null => "NoneType"
  | bool _ => "bool"
  | int _ => "int"
  | real _ => "float"
  | text _ => "str"
  | list _ => "list"
  | map _ => "dict"

/-- The number a value stands for; a truth value stands for one or zero. -/
def number? : Value → Option Number
  | bool b => some (.int (if b then 1 else 0))
  | int i => some (.int i)
  | real x => some (.real x)
  | _ => none

/-- A number as a value. -/
def ofNumber : Number → Value
  | .int i => int i
  | .real x => real x

/-- Whether a value counts as something: not null, false, zero or empty. -/
def isTruthy : Value → Bool
  | null => false
  | bool b => b
  | int i => i ≠ 0
  | real x => x.isNonzero
  | text s => s ≠ ""
  | list items => !items.isEmpty
  | map fields => !fields.isEmpty

/-- The value, or nothing for null. -/
def nonNull? : Value → Option Value
  | null => none
  | v => some v

/-- The value, or null for nothing. -/
def ofOption : Option Value → Value
  | some v => v
  | none => null

/-- A text, or null for nothing. -/
def ofText? : Option String → Value
  | some s => text s
  | none => null

/-- The value of a key of a map, when it is there and not null. -/
def field? (key : String) : Value → Option Value
  | map fields => (Entries.get? fields key).bind nonNull?
  | _ => none

theorem nonNull?_of_ne {v : Value} (h : v ≠ null) : nonNull? v = some v := by
  cases v <;> first | rfl | contradiction

end Value

end FlinkSteward
