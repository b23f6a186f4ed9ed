import StackOperator.Time.Instant

/-!
# Shapes of Kubernetes API objects

An object of the Kubernetes API has a fixed set of members, each with the
shape of its value. `Shape.read` checks a JSON value against a shape and gives
it back in its stored form:

* an object's members are read in key order and the first faulty one is
  reported; members the shape does not know are dropped;
* a member that is absent or null is left out, unless it is required: then it
  takes the default of its shape (the empty text, zero, false, an empty list
  or map, an object of defaults), so that it is always written;
* a fixed text (the `apiVersion` and `kind` of a top-level object) must be that
  text when given, and is always written;
* a value of the wrong kind is reported with the name of the object type
  (`expected PolicyRule`), or with the word for the kind of value
  (`expected a sequence`, `expected i32`);
* an integer-or-string takes an integer within 32 bits or a text; a time is a
  relaxed RFC 3339 text and is written in UTC.
-/

namespace StackOperator.K8s

open Json

mutual

/-- The shape of a value of the Kubernetes API. -/
inductive Shape where
  | string
  | boolean
  | int32
  | int64
  | float
  /-- A quantity such as `500m` or `1Gi`, held as its text. -/
  | quantity
  | intOrString
  /-- An instant, as an RFC 3339 text. -/
  | time
  /-- Any JSON value. -/
  | anyValue
  /-- A text that must be exactly `text`. -/
  | fixed (text : String)
  | list (item : Shape)
  | map (item : Shape)
  /-- An object type with its name and members. -/
  | object (name : String) (members : List Member)

/-- A member of an object type: its key, whether it is required, and its shape. -/
inductive Member where
  | mk (key : String) (required : Bool) (shape : Shape)

end

namespace Member

/-- An optional member. -/
def opt (key : String) (shape : Shape) : Member := .mk key false shape

/-- A required member. -/
def req (key : String) (shape : Shape) : Member := .mk key true shape

end Member

namespace Shape

/-- The message for an integer that does not fit in 32 bits. -/
def outside32 (i : Int) : String := s!"invalid value: integer `{i}`, expected a 32-bit integer"

/-- Read an integer within 32 bits or a text. -/
def readIntOrString : Decoder Value
  | .num (.int i) => if -2147483648 ≤ i ∧ i ≤ 2147483647 then .ok (.num (.int i)) else .error (outside32 i)
  | .str s => .ok (.str s)
  | v => Decode.wrongType v "IntOrString"

/-- Read a text that must be `text`. -/
def readFixed (text : String) : Decoder Value
  | .str s => if s = text then .ok (.str s) else .error s!"invalid value: string {Text.quoted s}, expected {text}"
  | v => Decode.wrongType v "a string"

/-- Whether a null member counts as absent: for every shape but a fixed text. -/
def nullIsAbsent : Shape → Bool
  | .fixed _ => false
  | _ => true

/-- The first fault of member results, by key. -/
def firstFault : List (String × Decoded (Option Value)) → Option (String × String)
  | [] => none
  | (k, .error m) :: rest =>
    match firstFault rest with
    | some (k', m') => if k' < k then some (k', m') else some (k, m)
    | none => some (k, m)
  | (_, .ok _) :: rest => firstFault rest

/-- The members that were read, with their stored values. -/
def readValues : List (String × Decoded (Option Value)) → Fields
  | [] => []
  | (k, .ok (some v)) :: rest => (k, v) :: readValues rest
  | _ :: rest => readValues rest

mutual

/-- The value a required member takes when it is absent. -/
def default : Shape → Value
  | .string | .quantity => .str ""
  | .boolean => .bool false
  | .int32 | .int64 | .intOrString => .ofInt 0
  | .float => .num (Number.ofFloat 0)
  | .time => .str (Instant.mk 0 0).render
  | .anyValue => .null
  | .fixed text => .str text
  | .list _ => .arr []
  | .map _ => .obj []
  | .object _ members => .obj (Fields.ofList (requiredDefaults members))

/-- The required members of an object with their defaults. -/
def requiredDefaults : List Member → List (String × Value)
  | [] => []
  | .mk key required shape :: rest =>
    if required then (key, default shape) :: requiredDefaults rest else requiredDefaults rest

end

mutual

/-- Check a value against a shape and give its stored form. -/
def read : Shape → Decoder Value
  | .string, v => (Decode.string v).map .str
  | .boolean, v => (Decode.bool v).map .bool
  | .int32, v => (Decode.i32 v).map .ofInt
  | .int64, v => (Decode.i64 v).map .ofInt
  | .float, v => (Decode.f64 v).map fun f => .num (Number.ofFloat f)
  | .quantity, v => (Decode.string v).map .str
  | .intOrString, v => readIntOrString v
  | .time, v => (Instant.decode v).map fun t => .str t.render
  | .anyValue, v => .ok v
  | .fixed text, v => readFixed text v
  | .list item, v =>
    match v with
    | .arr vs => (readItems item vs).map .arr
    | other => Decode.wrongType other "a sequence"
  | .map item, v =>
    match v with
    | .obj fs => (readEntries item fs).map .obj
    | other => Decode.wrongType other "a map"
  | .object name members, v =>
    match v with
    | .obj fs =>
      let results := readMembers members fs
      match firstFault results with
      | some (_, m) => .error m
      | none => .ok (.obj (Fields.ofList (readValues results)))
    | other => Decode.wrongType other name

/-- Read the items of a list. -/
def readItems (item : Shape) : List Value → Decoded (List Value)
  | [] => .ok []
  | v :: rest => do
    let x ← read item v
    let xs ← readItems item rest
    pure (x :: xs)

/-- Read the values of a map, in key order. -/
def readEntries (item : Shape) : Fields → Decoded Fields
  | [] => .ok []
  | (k, v) :: rest => do
    let x ← read item v
    let xs ← readEntries item rest
    pure ((k, x) :: xs)

/-- Each member of an object: its stored value, none when it is left out, or its fault. -/
def readMembers : List Member → Fields → List (String × Decoded (Option Value))
  | [], _ => []
  | .mk key required shape :: rest, fs =>
    let absent : Decoded (Option Value) := .ok (if required then some (default shape) else none)
    let here := match Fields.get? fs key with
      | none => absent
      | some .null => if nullIsAbsent shape then absent else (read shape .null).map some
      | some x => (read shape x).map some
    (key, here) :: readMembers rest fs

end

end Shape

end StackOperator.K8s
