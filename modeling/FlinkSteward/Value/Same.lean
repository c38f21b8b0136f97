import FlinkSteward.Value.Basic

/-!
# Sameness of values

Two values are the same when they differ at most in the order of map entries and in how their
numbers are held: 1, 1.0 and true are one number. NaN is not the same as anything.

- `Value.same`: the test
-/

namespace FlinkSteward.Value

mutual

/-- Whether two values are the same, up to the order of entries and the form of numbers. -/
def same : Value → Value → Bool
  | null, b => b = null
  | text s, b => b = text s
  | list as, b => match b with
    | list bs => sameItems as bs
    | _ => false
  | map as, b => match b with
    | map bs => as.length = bs.length && sameFields as bs
    | _ => false
  | bool x, b => sameNumber (.int (if x then 1 else 0)) b
  | int i, b => sameNumber (.int i) b
  | real x, b => sameNumber (.real x) b

/-- Whether a value stands for this number. -/
def sameNumber (n : Number) (b : Value) : Bool :=
  match b.number? with
  | some m => n.same m
  | none => false

/-- Whether two lists have the same items in the same order. -/
def sameItems : List Value → List Value → Bool
  | [], bs => bs.isEmpty
  | a :: as, bs => match bs with
    | b :: bs => same a b && sameItems as bs
    | [] => false

/-- Whether each field is in `bs` with the same value. -/
def sameFields : List (String × Value) → List (String × Value) → Bool
  | [], _ => true
  | (k, a) :: as, bs =>
    (match Entries.get? bs k with
      | some b => same a b
      | none => false) && sameFields as bs

end

example : same (map [("a", int 1), ("b", null)]) (map [("b", null), ("a", bool true)]) = true := by
  decide
example : same (real .nan) (real .nan) = false := by decide

end FlinkSteward.Value
