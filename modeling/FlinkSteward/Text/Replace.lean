/-!
# Replacing a part of a text

- `replaceAll`: each occurrence, from the front and without overlaps, replaced by another text
-/

namespace FlinkSteward.Text

/-- Replaces occurrences after the next `skip` characters, which belong to a replaced one. -/
def replaceFrom (part replacement : List Char) (skip : Nat) : List Char → List Char
  | [] => []
  | c :: rest =>
    match skip with
    | n + 1 => replaceFrom part replacement n rest
    | 0 =>
      if part.isPrefixOf (c :: rest) then
        replacement ++ replaceFrom part replacement (part.length - 1) rest
      else c :: replaceFrom part replacement 0 rest

/-- A text with each occurrence of `part`, which is not empty, replaced. -/
def replaceAll (s part replacement : String) : String :=
  String.ofList (replaceFrom part.toList replacement.toList 0 s.toList)

example : replaceAll "a--b---" "--" "+" = "a+b+-" := by decide

end FlinkSteward.Text
