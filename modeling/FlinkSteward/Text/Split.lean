/-!
# Splitting at a character

- `splitAt`: the parts of a text between the occurrences of a character; joining them gives it back
- `breakAt?`: the parts before and after the first occurrence
-/

namespace FlinkSteward.Text

/-- The parts between the occurrences of `sep`; there is always at least one. -/
def splitAt (sep : Char) : List Char → List (List Char)
  | [] => [[]]
  | c :: rest =>
    if c = sep then [] :: splitAt sep rest
    else match splitAt sep rest with
      | [] => [[c]]
      | part :: parts => (c :: part) :: parts

/-- What stands before and after the first occurrence of `sep`. -/
def breakAt? (sep : Char) : List Char → Option (List Char × List Char)
  | [] => none
  | c :: rest =>
    if c = sep then some ([], rest) else (breakAt? sep rest).map fun p => (c :: p.1, p.2)

/-- What stands before and after the last occurrence of `sep`. -/
def breakAtLast? (sep : Char) (cs : List Char) : Option (List Char × List Char) :=
  (breakAt? sep cs.reverse).map fun p => (p.2.reverse, p.1.reverse)

theorem splitAt_ne_nil (sep : Char) (cs : List Char) : splitAt sep cs ≠ [] := by
  cases cs with
  | nil => simp [splitAt]
  | cons c rest => simp only [splitAt]; split <;> (try split) <;> simp

example : splitAt '.' "a..b".toList = ["a".toList, [], "b".toList] := by decide

end FlinkSteward.Text
