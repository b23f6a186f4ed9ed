import StackOperator.Json.Value
import StackOperator.KeyMap
import StackOperator.Decimal.Shortest
import StackOperator.Text.Quoted

/-!
# Decoding values into typed data

A `Decoder` reads a `Value` as a typed datum or fails with a message in the
words the schema uses: `missing field `name``, `invalid type: string "x",
expected i32`, `invalid value: integer `2147483648`, expected i32`, `unknown
variant `x`, expected one of `a`, `b``.

A record is decoded member by member in the order its members are stored
(sorted by key), so the first faulty member in that order names the error;
required members that are missing are reported after that, in the order the
record declares them. Record decoders in this library therefore read their
optional members in key order first and check the required ones last.
-/

namespace StackOperator.Json

/-- A decoding result: the datum or the message saying why not. -/
abbrev Decoded (α : Type) := Except String α

/-- A reader of typed data from values. -/
abbrev Decoder (α : Type) := Value → Decoded α

/-- How a value is named in a message about it. -/
def Value.describe : Value → String
  | .null => "null"
  | .bool b => s!"boolean `{b}`"
  | .num (.int i) => s!"integer `{i}`"
  | .num (.float b) =>
    let text := Decimal.messageText (Float.ofBits b)
    s!"floating point `{text}`"
  | .str s => "string " ++ Text.quoted s
  | .arr _ => "sequence"
  | .obj _ => "map"

namespace Decode

/-- The message for a value of the wrong kind. -/
def invalidType (v : Value) (expected : String) : String :=
  s!"invalid type: {v.describe}, expected {expected}"

/-- Fail for a value of the wrong kind. -/
def wrongType {α : Type} (v : Value) (expected : String) : Decoded α :=
  .error (invalidType v expected)

/-- The message for a missing member. -/
def missingField (name : String) : String := s!"missing field `{name}`"

/-- A string. -/
def string : Decoder String
  | .str s => .ok s
  | v => wrongType v "a string"

/-- A boolean. -/
def bool : Decoder Bool
  | .bool b => .ok b
  | v => wrongType v "a boolean"

/-- An integer within `[lo, hi]`, named `what` in messages. -/
def intIn (what : String) (lo hi : Int) : Decoder Int
  | .num (.int i) =>
    if lo ≤ i ∧ i ≤ hi then .ok i
    else .error s!"invalid value: integer `{i}`, expected {what}"
  | v => wrongType v what

/-- A signed 32-bit integer. -/
def i32 : Decoder Int := intIn "i32" (-2147483648) 2147483647

/-- A signed 64-bit integer. -/
def i64 : Decoder Int := intIn "i64" (-9223372036854775808) 9223372036854775807

/-- An unsigned 16-bit integer. -/
def u16 : Decoder Nat := fun v => (intIn "u16" 0 65535 v).map Int.toNat

/-- An unsigned 64-bit integer. -/
def u64 : Decoder Nat := fun v => (intIn "u64" 0 18446744073709551615 v).map Int.toNat

/-- A double; integers are converted. -/
def f64 : Decoder Float
  | .num n => .ok n.toFloat
  | v => wrongType v "f64"

/-- Null as absent, otherwise the inner decoder. -/
def option {α : Type} (d : Decoder α) : Decoder (Option α)
  | .null => .ok none
  | v => (d v).map some

/-- Decode each item of a list, stopping at the first failure. -/
def eachItem {α : Type} (d : Decoder α) : List Value → Decoded (List α)
  | [] => .ok []
  | v :: rest => do
    let x ← d v
    let xs ← eachItem d rest
    pure (x :: xs)

/-- An array. -/
def list {α : Type} (d : Decoder α) : Decoder (List α)
  | .arr items => eachItem d items
  | v => wrongType v "a sequence"

/-- Decode each member value, stopping at the first failure. -/
def eachMember {α : Type} (d : Decoder α) : List (String × Value) → Decoded (List (String × α))
  | [] => .ok []
  | (k, v) :: rest => do
    let x ← d v
    let xs ← eachMember d rest
    pure ((k, x) :: xs)

/-- An object read as a map from keys to values; a later duplicate key wins. -/
def map {α : Type} (d : Decoder α) : Decoder (KeyMap α)
  | .obj fs => (eachMember d fs).map KeyMap.ofList
  | v => wrongType v "a map"

/-- The members of a record, or a message naming the record. -/
def record (name : String) : Decoder Fields
  | .obj fs => .ok fs
  | v => wrongType v name

/-- A member as a record declares it: its key, what its value must be (its
decoder, kept only for its faults), and whether a sequence may leave it out
for its default. -/
structure MemberSpec where
  key : String
  check : Value → Decoded Unit
  defaulted : Bool

/-- A member with a default, which a sequence may leave out. -/
def MemberSpec.withDefault {α : Type} (key : String) (d : Decoder α) : MemberSpec :=
  ⟨key, fun v => (d v).map fun _ => (), true⟩

/-- A member without a default, which a sequence must hold. -/
def MemberSpec.needed {α : Type} (key : String) (d : Decoder α) : MemberSpec :=
  ⟨key, fun v => (d v).map fun _ => (), false⟩

/-- How many elements a record of `n` members has, in a message. -/
def elementCount (n : Nat) : String := if n = 1 then "1 element" else s!"{n} elements"

/-- Items of a sequence as the members they stand for, in declaration order;
the `i`-th item is checked as the `i`-th member, and a sequence that ends
before a member without default is too short. -/
def itemsAsMembers (what : String) (count : Nat) :
    List MemberSpec → List Value → Nat → Decoded (List (String × Value))
  | [], _, _ => .ok []
  | m :: ms, v :: vs, i => do
    m.check v
    let rest ← itemsAsMembers what count ms vs (i + 1)
    pure ((m.key, v) :: rest)
  | m :: ms, [], i =>
    if m.defaulted then itemsAsMembers what count ms [] (i + 1)
    else .error s!"invalid length {i}, expected {what} with {elementCount count}"

/-- The members of a record declared with `specs`: from a map as they are, or
from a sequence whose items stand for the members in declaration order and
which has no item beyond them. -/
def recordOf (name : String) (specs : List MemberSpec) : Decoder Fields
  | .obj fs => .ok fs
  | .arr items => do
    let members ← itemsAsMembers name specs.length specs items 0
    if specs.length < items.length then
      .error s!"invalid length {items.length}, expected fewer elements in array"
    else .ok (Fields.ofList members)
  | v => wrongType v name

/-- An optional member: absent or null is `none`. -/
def optField {α : Type} (fs : Fields) (key : String) (d : Decoder α) : Decoded (Option α) :=
  match Fields.get? fs key with
  | none => .ok none
  | some v => option d v

/-- A member with a default when absent (null is decoded, not defaulted). -/
def fieldOr {α : Type} (fs : Fields) (key : String) (d : Decoder α) (dflt : α) : Decoded α :=
  match Fields.get? fs key with
  | none => .ok dflt
  | some v => d v

/-- A member read only for its faults; its value is taken later by `required`. -/
def presentField {α : Type} (fs : Fields) (key : String) (d : Decoder α) : Decoded (Option α) :=
  match Fields.get? fs key with
  | none => .ok none
  | some v => (d v).map some

/-- A required member, after all members were read: missing is an error. -/
def required {α : Type} (key : String) : Option α → Decoded α
  | some x => .ok x
  | none => .error (missingField key)

/-- How a list of names is offered in a message. -/
def oneOf (names : List String) : String :=
  let q := names.map fun n => s!"`{n}`"
  match q with
  | [] => "there are no variants"
  | [a] => s!"expected {a}"
  | [a, b] => s!"expected {a} or {b}"
  | _ => "expected one of " ++ ", ".intercalate q

/-- One of a fixed set of names, as a string (or a one-member map with a null value). -/
def variant {α : Type} (table : List (String × α)) : Decoder α := fun v =>
  let pick (name : String) : Decoded α :=
    match table.find? (·.1 == name) with
    | some (_, x) => .ok x
    | none =>
      let offered := oneOf (table.map (·.1))
      .error s!"unknown variant `{name}`, {offered}"
  match v with
  | .str s => pick s
  | .obj [(name, inner)] =>
    match inner with
    | .null => pick name
    | other => do
      let _ ← pick name
      wrongType other "unit"
  | .obj _ => .error "invalid value: map, expected map with a single key"
  | other => wrongType other "string or map"

/-- A bind succeeds only where its first step does, and then as its second step does on that
value; a decoder is taken apart member by member with it. -/
theorem exists_of_bind_eq_ok {ε α β : Type} {x : Except ε α} {f : α → Except ε β} {b : β}
    (bound : x >>= f = .ok b) : ∃ a, x = .ok a ∧ f a = .ok b := by
  cases x with
  | error _ => cases bound
  | ok a => exact ⟨a, rfl, bound⟩

end Decode

end StackOperator.Json
