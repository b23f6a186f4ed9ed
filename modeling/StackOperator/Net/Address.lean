/-!
# Socket addresses

A socket address is written `a.b.c.d:port` for IPv4 or `[h:h:…:h]:port` for
IPv6, with an optional `%scope` after the IPv6 address. The grammar is
strict:

* an IPv4 address has four decimal parts of one to three digits, each at
  most 255 and without a leading zero unless it is `0`;
* an IPv6 address has eight groups of one to four hexadecimal digits, or
  fewer around a single `::` that stands for at least one zero group, and
  may end in an IPv4 address in place of its last two groups;
* a port is a decimal number below 65536, leading zeros allowed;
* nothing may follow.

Host names are not addresses. `isSocketAddress` decides the grammar, and
`isIpAddress` that of an address alone.

Main statement: `isSocketAddress_head`, a socket address starts with a digit or
a bracket, so no host name is one.
-/

namespace StackOperator.Net

/-- The value of a digit in base 10 or 16. -/
def digitValue (radix : Nat) (c : Char) : Option Nat :=
  if '0' ≤ c ∧ c ≤ '9' then some (c.toNat - '0'.toNat)
  else if radix = 16 ∧ 'a' ≤ c ∧ c ≤ 'f' then some (c.toNat - 'a'.toNat + 10)
  else if radix = 16 ∧ 'A' ≤ c ∧ c ≤ 'F' then some (c.toNat - 'A'.toNat + 10)
  else none

/-- The longest run of digits at the front, with what follows it. -/
def digitRun (radix : Nat) : List Char → List Nat × List Char
  | [] => ([], [])
  | c :: rest =>
    match digitValue radix c with
    | some d =>
      let (ds, r) := digitRun radix rest
      (d :: ds, r)
    | none => ([], c :: rest)

/-- Read a number below `bound` from the longest run of digits, of at most
`maxDigits` digits when given, and without a leading zero unless
`zeroPrefix`; what follows it. -/
def readNumber (radix : Nat) (maxDigits : Option Nat) (zeroPrefix : Bool) (bound : Nat)
    (cs : List Char) : Option (List Char) :=
  let (ds, rest) := digitRun radix cs
  let value := ds.foldl (fun acc d => acc * radix + d) 0
  if ds.isEmpty then none
  else if maxDigits.any (fun m => m < ds.length) then none
  else if !zeroPrefix && ds.head? == some 0 && 1 < ds.length then none
  else if bound ≤ value then none
  else some rest

/-- Read one given character. -/
def expect (c : Char) : List Char → Option (List Char)
  | d :: rest => if d = c then some rest else none
  | [] => none

/-- Read an IPv4 address. -/
def readIpv4 (cs : List Char) : Option (List Char) := do
  let part := readNumber 10 (some 3) false 256
  let r ← part cs
  let r ← part (← expect '.' r)
  let r ← part (← expect '.' r)
  part (← expect '.' r)

/-- Read colon-separated IPv6 groups from index `i` up to `limit`, the last
two of which may be an IPv4 address: how many groups were read, whether an
IPv4 address ended them, and what follows. -/
def readGroups (limit : Nat) (i : Nat) (cs : List Char) : Nat → Nat × Bool × List Char
  | 0 => (i, false, cs)
  | fuel + 1 =>
    let separated := if 0 < i then expect ':' cs else some cs
    match (if i + 1 < limit then separated.bind readIpv4 else none) with
    | some rest => (i + 2, true, rest)
    | none =>
      match separated.bind (readNumber 16 (some 4) true 65536) with
      | some rest => readGroups limit (i + 1) rest fuel
      | none => (i, false, cs)

/-- Read an IPv6 address. -/
def readIpv6 (cs : List Char) : Option (List Char) :=
  let (headSize, headIpv4, rest) := readGroups 8 0 cs 8
  if headSize = 8 then some rest
  else if headIpv4 then none
  else do
    let rest ← expect ':' rest
    let rest ← expect ':' rest
    let limit := 8 - (headSize + 1)
    let (_, _, rest) := readGroups limit 0 rest limit
    some rest

/-- Read `:port`. -/
def readPort (cs : List Char) : Option (List Char) := do
  readNumber 10 none true 65536 (← expect ':' cs)

/-- Read `a.b.c.d:port`. -/
def readV4Socket (cs : List Char) : Option (List Char) := do
  readPort (← readIpv4 cs)

/-- Read `[address%scope]:port`, the scope optional. -/
def readV6Socket (cs : List Char) : Option (List Char) := do
  let rest ← readIpv6 (← expect '[' cs)
  let rest := ((expect '%' rest).bind (readNumber 10 none true 4294967296)).getD rest
  readPort (← expect ']' rest)

/-- Whether a text is a socket address. -/
def isSocketAddress (s : String) : Bool :=
  match readV4Socket s.toList with
  | some rest => rest.isEmpty
  | none =>
    match readV6Socket s.toList with
    | some rest => rest.isEmpty
    | none => false

/-- Whether a text is an IPv4 or IPv6 address, without brackets, scope or port. -/
def isIpAddress (s : String) : Bool :=
  readIpv4 s.toList == some [] || readIpv6 s.toList == some []

/-- A number read in base 10 starts with a decimal digit. -/
theorem readNumber_head {maxDigits : Option Nat} {zeroPrefix : Bool} {bound : Nat} {cs rest : List Char}
    (read : readNumber 10 maxDigits zeroPrefix bound cs = some rest) :
    ∃ c more, cs = c :: more ∧ '0' ≤ c ∧ c ≤ '9' := by
  cases cs with
  | nil => simp [readNumber, digitRun] at read
  | cons c more =>
    refine ⟨c, more, rfl, ?_⟩
    by_cases digit : '0' ≤ c ∧ c ≤ '9'
    · exact digit
    · -- a first character that is no digit ends the run at once, and an empty run is no number
      have none : digitValue 10 c = none := by simp [digitValue, digit]
      simp [readNumber, digitRun, none] at read

/-- A socket address starts with a digit of its IPv4 address or with the bracket of an IPv6 one,
so a host name such as `localhost:8081` is none. -/
theorem isSocketAddress_head {s : String} (address : isSocketAddress s = true) :
    ∃ c more, s.toList = c :: more ∧ ('0' ≤ c ∧ c ≤ '9' ∨ c = '[') := by
  unfold isSocketAddress at address
  cases v4 : readV4Socket s.toList with
  | some _ =>
    -- the IPv4 address is read first, from its first part
    obtain ⟨afterAddress, readAddress, -⟩ := Option.bind_eq_some_iff.mp v4
    obtain ⟨afterPart, readPart, -⟩ := Option.bind_eq_some_iff.mp readAddress
    obtain ⟨c, more, spelled, digit⟩ := readNumber_head readPart
    exact ⟨c, more, spelled, .inl digit⟩
  | none =>
    rw [v4] at address
    cases v6 : readV6Socket s.toList with
    | none => simp [v6] at address
    | some _ =>
      -- an IPv6 socket address opens with its bracket
      obtain ⟨afterBracket, opened, -⟩ := Option.bind_eq_some_iff.mp v6
      cases spelled : s.toList with
      | nil => simp [spelled, expect] at opened
      | cons c more =>
        rw [spelled] at opened
        by_cases bracket : c = '['
        · exact ⟨c, more, rfl, .inr bracket⟩
        · simp [expect, bracket] at opened

example : isSocketAddress "localhost:8081" = false := by decide

end StackOperator.Net
