import StackOperator.Json.Value

/-!
# Merge patches between values

`Value.mergeDiff old new` is a JSON merge patch that turns `old` into `new`:
where both are objects, each member of `new` is diffed against the member of
`old` with the same key (or taken as it is), and each member of `old` that
`new` lacks is set to `null`, which removes it. Anything else is replaced by
`new` as a whole.

Main statement: `mergeDiff_of_not_obj`, a value that is not an object is its
own patch.
-/

namespace StackOperator.Json

mutual

/-- The merge patch that turns `old` into `new`. -/
def Value.mergeDiff (old : Value) : Value → Value
  | .obj n =>
    match old with
    | .obj o =>
      let removed := o.filter fun (k, _) => (Fields.get? n k).isNone
      .obj (removed.foldl (fun acc (k, _) => Fields.put acc k .null) (Value.diffMembers o n))
    | _ => .obj n
  | other => other

/-- Each member of `n` diffed against the member of `o` with the same key. -/
def Value.diffMembers (o : Fields) : Fields → Fields
  | [] => []
  | (k, v) :: rest =>
    let patched :=
      match Fields.get? o k with
      | some prev => Value.mergeDiff prev v
      | none => v
    (k, patched) :: Value.diffMembers o rest

end

theorem mergeDiff_of_not_obj (old new : Value) (h : ∀ fs, new ≠ .obj fs) :
    old.mergeDiff new = new := by
  cases new with
  | obj fs => exact absurd rfl (h fs)
  | _ => simp [Value.mergeDiff]

end StackOperator.Json
