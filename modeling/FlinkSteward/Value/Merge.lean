import FlinkSteward.Value.Basic

/-!
# Merging values

Two ways to lay one value over another. A *patch* merges maps entry by entry and replaces all else.
A *template* also merges lists, item by item.

- `Value.patch`: a value with a patch applied, with `patch_of_not_map`
- `Value.overlay`: a template laid over another
-/

namespace FlinkSteward.Value

mutual

/-- The value `base` after the patch: maps merge, everything else is replaced. -/
def patch (base : Value) : Value → Value
  | map changes => match base with
    | map fields => map (patchFields fields changes)
    | _ => map changes
  | v => v

/-- Fields after each change in turn. -/
def patchFields (fields : List (String × Value)) : List (String × Value) → List (String × Value)
  | [] => fields
  | (k, v) :: rest =>
    patchFields
      (Entries.put fields k (match Entries.get? fields k with
        | some old => patch old v
        | none => v))
      rest

end

mutual

/-- The template `base` with another laid over it: maps and lists merge, all else is replaced. -/
def overlay (base : Value) : Value → Value
  | map upper => match base with
    | map lower => map (overlayFields lower upper)
    | _ => map upper
  | list upper => match base with
    | list lower => list (overlayItems lower upper)
    | _ => list upper
  | v => v

/-- Items merged place by place; the longer list keeps its end. -/
def overlayItems (lower : List Value) : List Value → List Value
  | [] => lower
  | v :: rest => match lower with
    | [] => v :: rest
    | b :: lower => overlay b v :: overlayItems lower rest

/-- Fields merged key by key. -/
def overlayFields (lower : List (String × Value)) : List (String × Value) → List (String × Value)
  | [] => lower
  | (k, v) :: rest =>
    overlayFields
      (Entries.put lower k (match Entries.get? lower k with
        | some old => overlay old v
        | none => v))
      rest

end

/-- Two templates, either of which may be missing, in one. -/
def overlay? : Option Value → Option Value → Option Value
  | none, upper => upper
  | lower, none => lower
  | some lower, some upper => some (overlay lower upper)

@[simp] theorem patch_map (fields changes : List (String × Value)) :
    patch (map fields) (map changes) = map (patchFields fields changes) := by
  simp [patch]

/-- `patch` merges only a map into what was there. -/
theorem patch_of_not_map (base v : Value) (h : ∀ fields, v ≠ map fields) : patch base v = v := by
  cases v <;> simp_all [patch]

end FlinkSteward.Value
