/-!
# JSON values

The dynamic values that custom resources, Kubernetes objects and answers are
made of. A number keeps the class the reader gave it: an integer literal that
fits in 64 bits stays an integer, anything else is a double. An object keeps
its members sorted by key with no key twice, which is the order in which every
object is written out; `Fields.put` maintains that order.

Main statements: `Fields.get?_put_self` and `Fields.get?_put_ne` say that `put`
is a map update, so the sorted list is a finite map.
-/

namespace StackOperator.Json

/-- A JSON number: an integer literal within 64 bits, or a double kept as its bits. -/
inductive Number where
  | int (value : Int)
  | float (bits : UInt64)
  deriving DecidableEq, Inhabited, Repr

/-- A JSON value. Object members are kept sorted by key (see `Fields.put`). -/
inductive Value where
  | null
  | bool (b : Bool)
  | num (n : Number)
  | str (s : String)
  | arr (items : List Value)
  | obj (fields : List (String × Value))
  deriving Inhabited, Repr

/-- Object members, sorted by key. -/
abbrev Fields := List (String × Value)

namespace Number

/-- The double a number stands for. -/
def toFloat : Number → Float
  | .int i => Float.ofInt i
  | .float b => Float.ofBits b

/-- A number made from a double. -/
def ofFloat (f : Float) : Number := .float f.toBits

end Number

namespace Fields

/-- The value stored under a key. -/
def get? : Fields → String → Option Value
  | [], _ => none
  | (k, v) :: rest, key => if k = key then some v else get? rest key

/-- Store a value under a key, replacing an earlier one and keeping keys sorted. -/
def put : Fields → String → Value → Fields
  | [], key, v => [(key, v)]
  | (k, w) :: rest, key, v =>
    if key < k then (key, v) :: (k, w) :: rest
    else if key = k then (key, v) :: rest
    else (k, w) :: put rest key v

/-- Drop the member under a key. -/
def erase : Fields → String → Fields
  | [], _ => []
  | (k, v) :: rest, key => if k = key then rest else (k, v) :: erase rest key

/-- Members in the order given, each put in turn (a later duplicate wins). -/
def ofList (members : List (String × Value)) : Fields :=
  members.foldl (fun acc m => acc.put m.1 m.2) []

/-- The keys, in order. -/
def keys (fs : Fields) : List String := fs.map (·.1)

theorem get?_put_self (fs : Fields) (key : String) (v : Value) :
    (fs.put key v).get? key = some v := by
  induction fs with
  | nil => simp [put, get?]
  | cons kw rest ih =>
    obtain ⟨k, w⟩ := kw
    simp only [put]
    by_cases hlt : key < k
    · simp [hlt, get?]
    · by_cases heq : key = k
      · simp [heq, get?]
      · simp only [hlt, heq, if_false, get?]
        rw [if_neg (Ne.symm heq)]
        exact ih

theorem get?_put_ne (fs : Fields) {key other : String} (v : Value) (h : other ≠ key) :
    (fs.put key v).get? other = fs.get? other := by
  induction fs with
  | nil => simp [put, get?, Ne.symm h]
  | cons kw rest ih =>
    obtain ⟨k, w⟩ := kw
    simp only [put]
    by_cases hlt : key < k
    · simp [hlt, get?, Ne.symm h]
    · by_cases heq : key = k
      · subst heq
        simp [get?, Ne.symm h]
      · simp only [hlt, heq, if_false, get?]
        split <;> simp_all

end Fields

namespace Value

mutual

/-- Whether two values are equal, member by member and item by item. -/
def decEq : (a b : Value) → Decidable (a = b)
  | .null, .null => isTrue rfl
  | .bool a, .bool b => if h : a = b then isTrue (h ▸ rfl) else isFalse (fun e => by cases e; exact h rfl)
  | .num a, .num b => if h : a = b then isTrue (h ▸ rfl) else isFalse (fun e => by cases e; exact h rfl)
  | .str a, .str b => if h : a = b then isTrue (h ▸ rfl) else isFalse (fun e => by cases e; exact h rfl)
  | .arr as, .arr bs =>
    match decEqItems as bs with
    | isTrue h => isTrue (h ▸ rfl)
    | isFalse h => isFalse (fun e => by cases e; exact h rfl)
  | .obj as, .obj bs =>
    match decEqFields as bs with
    | isTrue h => isTrue (h ▸ rfl)
    | isFalse h => isFalse (fun e => by cases e; exact h rfl)
  | .null, .bool _ | .null, .num _ | .null, .str _ | .null, .arr _ | .null, .obj _
  | .bool _, .null | .bool _, .num _ | .bool _, .str _ | .bool _, .arr _ | .bool _, .obj _
  | .num _, .null | .num _, .bool _ | .num _, .str _ | .num _, .arr _ | .num _, .obj _
  | .str _, .null | .str _, .bool _ | .str _, .num _ | .str _, .arr _ | .str _, .obj _
  | .arr _, .null | .arr _, .bool _ | .arr _, .num _ | .arr _, .str _ | .arr _, .obj _
  | .obj _, .null | .obj _, .bool _ | .obj _, .num _ | .obj _, .str _ | .obj _, .arr _ =>
    isFalse (fun e => by cases e)

/-- Whether two lists of values are equal. -/
def decEqItems : (a b : List Value) → Decidable (a = b)
  | [], [] => isTrue rfl
  | [], _ :: _ | _ :: _, [] => isFalse (fun e => by cases e)
  | x :: xs, y :: ys =>
    match decEq x y, decEqItems xs ys with
    | isTrue h, isTrue h' => isTrue (h ▸ h' ▸ rfl)
    | isFalse h, _ => isFalse (fun e => by cases e; exact h rfl)
    | _, isFalse h' => isFalse (fun e => by cases e; exact h' rfl)

/-- Whether two lists of members are equal. -/
def decEqFields : (a b : List (String × Value)) → Decidable (a = b)
  | [], [] => isTrue rfl
  | [], _ :: _ | _ :: _, [] => isFalse (fun e => by cases e)
  | (k, x) :: xs, (l, y) :: ys =>
    if hk : k = l then
      match decEq x y, decEqFields xs ys with
      | isTrue h, isTrue h' => isTrue (hk ▸ h ▸ h' ▸ rfl)
      | isFalse h, _ => isFalse (fun e => by cases e; exact h rfl)
      | _, isFalse h' => isFalse (fun e => by cases e; exact h' rfl)
    else isFalse (fun e => by cases e; exact hk rfl)

end

instance : DecidableEq Value := decEq

/-- An object from members in any order. -/
def object (members : List (String × Value)) : Value := .obj (Fields.ofList members)

/-- A string-to-string map as an object. -/
def ofStrMap (m : List (String × String)) : Value := object (m.map fun (k, v) => (k, .str v))

/-- A list of strings as an array. -/
def ofStrs (xs : List String) : Value := .arr (xs.map .str)

/-- An integer number. -/
def ofInt (i : Int) : Value := .num (.int i)

/-- A string, or null. -/
def ofOptStr : Option String → Value
  | some s => .str s
  | none => .null

/-- The member under a key of an object; `none` for a missing key or a non-object. -/
def get? : Value → String → Option Value
  | .obj fs, k => Fields.get? fs k
  | _, _ => none

/-- The member under a key, reading null as absent. -/
def field? (v : Value) (k : String) : Option Value :=
  match v.get? k with
  | some .null => none
  | other => other

/-- The text of a string value. -/
def str? : Value → Option String
  | .str s => some s
  | _ => none

/-- The truth value of a boolean. -/
def bool? : Value → Option Bool
  | .bool b => some b
  | _ => none

/-- The members of an object. -/
def obj? : Value → Option Fields
  | .obj fs => some fs
  | _ => none

/-- The items of an array. -/
def arr? : Value → Option (List Value)
  | .arr xs => some xs
  | _ => none

/-- The integer of an integer number. -/
def int? : Value → Option Int
  | .num (.int i) => some i
  | _ => none

/-- Put a member into an object; other values are left alone. -/
def insert : Value → String → Value → Value
  | .obj fs, k, v => .obj (Fields.put fs k v)
  | other, _, _ => other

/-- Put a member only when there is one to put. -/
def insertSome (o : Value) (k : String) : Option Value → Value
  | some v => o.insert k v
  | none => o

end Value

mutual

/-- Every string of a value, at any depth, mapped by `f`; keys are left alone. -/
def Value.mapStrings (f : String → String) : Value → Value
  | .str s => .str (f s)
  | .arr items => .arr (Value.mapItems f items)
  | .obj fs => .obj (Value.mapMembers f fs)
  | other => other

/-- `Value.mapStrings` on each item. -/
def Value.mapItems (f : String → String) : List Value → List Value
  | [] => []
  | v :: rest => Value.mapStrings f v :: Value.mapItems f rest

/-- `Value.mapStrings` on each member's value. -/
def Value.mapMembers (f : String → String) : List (String × Value) → List (String × Value)
  | [] => []
  | (k, v) :: rest => (k, Value.mapStrings f v) :: Value.mapMembers f rest

end

end StackOperator.Json
