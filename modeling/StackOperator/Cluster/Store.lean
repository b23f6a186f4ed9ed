import StackOperator.Json.Value

/-!
# Stores of namespaced objects

The simulated cluster keeps each kind of object in a store: a finite map from
an object's namespace and name to the object. A store is a list of entries
with distinct keys; `put` replaces the entry of its key in place or appends
a new one, so the keys stay distinct (`get?_put_self`, `get?_put_ne`).

A store is shown as a JSON object keyed by `namespace/name`.
-/

namespace StackOperator.Cluster

/-- Where an object lives: its namespace and name. -/
structure ObjectKey where
  ns : String
  name : String
  deriving DecidableEq, Inhabited, Repr

/-- `namespace/name`. -/
def ObjectKey.path (k : ObjectKey) : String := k.ns ++ "/" ++ k.name

/-- The key a `namespace/name` path names: the namespace ends at the first slash. -/
def ObjectKey.ofPath (path : String) : ObjectKey :=
  match path.splitOn "/" with
  | ns :: rest@(_ :: _) => ⟨ns, "/".intercalate rest⟩
  | _ => ⟨"", path⟩

/-- Objects keyed by namespace and name. -/
abbrev Store (α : Type) := List (ObjectKey × α)

namespace Store

variable {α : Type}

/-- The object stored under a key. -/
def get? : Store α → ObjectKey → Option α
  | [], _ => none
  | (k, v) :: rest, key => if k = key then some v else get? rest key

/-- Store an object under a key, replacing the one there. -/
def put : Store α → ObjectKey → α → Store α
  | [], key, v => [(key, v)]
  | (k, w) :: rest, key, v => if k = key then (key, v) :: rest else (k, w) :: put rest key v

/-- The object under a key, storing `v` there first when the key is free. -/
def getOrPut (s : Store α) (key : ObjectKey) (v : α) : α × Store α :=
  match get? s key with
  | some old => (old, s)
  | none => (v, put s key v)

/-- The JSON object of a store, keyed by `namespace/name`. -/
def toValue (f : α → Json.Value) (s : Store α) : Json.Value :=
  .object (s.map fun (k, v) => (k.path, f v))

theorem get?_put_self (s : Store α) (key : ObjectKey) (v : α) : get? (put s key v) key = some v := by
  induction s with
  | nil => simp [put, get?]
  | cons e rest ih =>
    obtain ⟨k, w⟩ := e
    by_cases h : k = key
    · simp [put, get?, h]
    · simp [put, get?, h, ih]

theorem get?_put_ne (s : Store α) (key other : ObjectKey) (v : α) (h : other ≠ key) :
    get? (put s key v) other = get? s other := by
  induction s with
  | nil => simp [put, get?, Ne.symm h]
  | cons e rest ih =>
    obtain ⟨k, w⟩ := e
    by_cases hk : k = key
    · subst hk
      simp [put, get?, Ne.symm h]
    · by_cases ho : k = other
      · subst ho
        simp [put, get?, h]
      · simp [put, get?, hk, ho, ih]

theorem getOrPut_of_present (s : Store α) (key : ObjectKey) (v old : α) (h : get? s key = some old) :
    getOrPut s key v = (old, s) := by
  simp [getOrPut, h]

end Store

end StackOperator.Cluster
