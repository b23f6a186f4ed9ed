/-!
# Absolute URIs

An absolute URI with the scheme `https` is `https://` followed by an
authority, then an optional path, query and fragment. `httpsFault?` says why
the text after `https://` does not complete one, if it does not:

* an empty text is `empty string`;
* the authority runs up to the first `/`, `?` or `#`. It may hold letters,
  digits and `!#$&'()*+,-./:;=?@[]_~` (any other character is `invalid uri
  character`), and `%` only in the user part before an `@`; the brackets of
  an IPv6 host come once and in order, at most one colon stands outside the
  brackets and the user part, and an `@` is not last (else `invalid
  authority`);
* an empty authority before a path is `invalid format`;
* the path may not hold controls, blanks, `<`, `>` or a backquote, the query
  after `?` not controls, blanks, `"`, `<` or `>`; the fragment after `#` is
  not looked at;
* the whole URI is at most 65534 bytes long (else `uri too long`).

Main statement: `httpsFault?_hostName`, a host name of letters, digits, dashes and
dots makes a URI when it fits the bound, as `kubernetes.default.svc` does.
-/

namespace StackOperator.Net

/-- Why a text is not a URI. -/
inductive UriFault where
  | empty
  | invalidChar
  | invalidAuthority
  | invalidFormat
  | tooLong
  deriving DecidableEq, Repr

/-- The report of a fault. -/
def UriFault.message : UriFault → String
  | .empty => "empty string"
  | .invalidChar => "invalid uri character"
  | .invalidAuthority => "invalid authority"
  | .invalidFormat => "invalid format"
  | .tooLong => "uri too long"

/-- The longest URI, in bytes. -/
def maxUriBytes : Nat := 65534

/-- Whether a character ends the authority. -/
def endsAuthority (c : Char) : Bool := c = '/' || c = '?' || c = '#'

/-- Whether a character may stand in an authority as it is. -/
def isAuthorityChar (c : Char) : Bool :=
  c.isAlphanum || "!#$&\x27()*+,-./:;=?@[]_~".toList.contains c

/-- What the scan of an authority has seen: colons that may start a port,
whether a bracket was opened and closed, and a `%` outside the user part. -/
structure AuthorityScan where
  colons : Nat := 0
  opened : Bool := false
  closed : Bool := false
  percent : Bool := false

/-- Scan the characters of an authority. -/
def scanAuthority : List Char → AuthorityScan → Except UriFault AuthorityScan
  | [], s => .ok s
  | c :: rest, s =>
    if c = ':' then
      if 8 ≤ s.colons then .error .invalidAuthority else scanAuthority rest { s with colons := s.colons + 1 }
    else if c = '[' then
      if s.percent || s.opened then .error .invalidAuthority else scanAuthority rest { s with opened := true }
    else if c = ']' then
      if !s.opened || s.closed then .error .invalidAuthority
      else scanAuthority rest { s with closed := true, colons := 0, percent := false }
    else if c = '@' then scanAuthority rest { s with colons := 0, percent := false }
    else if c = '%' then scanAuthority rest { s with percent := true }
    else if isAuthorityChar c then scanAuthority rest s
    else .error .invalidChar

/-- Why the characters of an authority do not make one, if they do not. -/
def authorityFault? (cs : List Char) : Option UriFault :=
  match scanAuthority cs {} with
  | .error f => some f
  | .ok s =>
    if s.opened != s.closed || 1 < s.colons || cs.getLast? = some '@' || s.percent then
      some .invalidAuthority
    else none

/-- Whether a character may stand in a path. -/
def isPathChar (c : Char) : Bool :=
  let n := c.toNat
  n = 0x21 || n = 0x22 || (0x24 ≤ n && n ≤ 0x3B) || n = 0x3D || (0x40 ≤ n && n ≤ 0x5F) ||
    (0x61 ≤ n && n ≤ 0x7D) || 0x7E ≤ n

/-- Whether a character may stand in a query. -/
def isQueryChar (c : Char) : Bool :=
  let n := c.toNat
  n = 0x21 || (0x24 ≤ n && n ≤ 0x3B) || n = 0x3D || 0x3F ≤ n

/-- Why a query does not make one, if it does not; it ends at `#`. -/
def queryFault? : List Char → Option UriFault
  | [] => none
  | '#' :: _ => none
  | c :: rest => if isQueryChar c then queryFault? rest else some .invalidChar

/-- Why a path with its query does not make one, if it does not. -/
def pathFault? : List Char → Option UriFault
  | [] => none
  | '?' :: rest => queryFault? rest
  | '#' :: _ => none
  | c :: rest => if isPathChar c then pathFault? rest else some .invalidChar

/-- Why `https://` and a text do not make a URI, if they do not. -/
def httpsFault? (rest : String) : Option UriFault :=
  if maxUriBytes < ("https://" ++ rest).utf8ByteSize then some .tooLong
  else
    let cs := rest.toList
    let authority := cs.takeWhile (!endsAuthority ·)
    if cs.isEmpty then some .empty
    else match authorityFault? authority with
      | some f => some f
      | none => if authority.isEmpty then some .invalidFormat else pathFault? (cs.dropWhile (!endsAuthority ·))

/-- A letter, a digit, a dash or a dot: what a host name is made of. -/
theorem plain_char {c : Char} (plain : c.isAlphanum = true ∨ c = '-' ∨ c = '.') :
    c ≠ ':' ∧ c ≠ '[' ∧ c ≠ ']' ∧ c ≠ '@' ∧ c ≠ '%' ∧ isAuthorityChar c = true ∧ endsAuthority c = false := by
  rcases plain with alnum | rfl | rfl
  · -- a letter or a digit is none of the characters that are neither
    have differs : ∀ d : Char, d.isAlphanum = false → c ≠ d := fun d other same => by
      rw [same, other] at alnum
      cases alnum
    refine ⟨differs ':' (by decide), differs '[' (by decide), differs ']' (by decide), differs '@' (by decide),
      differs '%' (by decide), by simp [isAuthorityChar, alnum], ?_⟩
    simp [endsAuthority, differs '/' (by decide), differs '?' (by decide), differs '#' (by decide)]
  all_goals decide

/-- Letters, digits, dashes and dots leave the scan of an authority as it was. -/
theorem scanAuthority_plain {cs : List Char} (plain : ∀ c ∈ cs, c.isAlphanum = true ∨ c = '-' ∨ c = '.')
    (s : AuthorityScan) : scanAuthority cs s = .ok s := by
  induction cs with
  | nil => rfl
  | cons c rest ih =>
    obtain ⟨colon, opening, closing, at_, percent, allowed, -⟩ := plain_char (plain c List.mem_cons_self)
    rw [scanAuthority, if_neg colon, if_neg opening, if_neg closing, if_neg at_, if_neg percent, if_pos allowed]
    exact ih fun c listed => plain c (List.mem_cons_of_mem _ listed)

/-- A host name, made of letters, digits, dashes and dots, makes a URI after `https://` when the
whole fits the length bound. -/
theorem httpsFault?_hostName {host : String} (named : host.toList ≠ [])
    (plain : ∀ c ∈ host.toList, c.isAlphanum = true ∨ c = '-' ∨ c = '.')
    (fits : ("https://" ++ host).utf8ByteSize ≤ maxUriBytes) : httpsFault? host = none := by
  -- the whole host is the authority, and no path follows it
  have inside : ∀ c ∈ host.toList, (!endsAuthority c) = true := fun c listed => by
    simp [(plain_char (plain c listed)).2.2.2.2.2.2]
  have authorityAll : host.toList.takeWhile (!endsAuthority ·) = host.toList := by
    simpa using @List.takeWhile_append_of_pos _ _ host.toList [] inside
  have nothingAfter : host.toList.dropWhile (!endsAuthority ·) = [] := by
    simpa using @List.dropWhile_append_of_pos _ _ host.toList [] inside
  have lastPlain : host.toList.getLast? ≠ some '@' := by
    intro last
    exact (plain_char (plain '@' (List.mem_of_getLast? last))).2.2.2.1 rfl
  have authority : authorityFault? host.toList = none := by
    simp [authorityFault?, scanAuthority_plain plain, lastPlain]
  rw [httpsFault?, if_neg (Nat.not_lt.mpr fits)]
  simp [authorityAll, nothingAfter, named, authority, pathFault?]

example : httpsFault? "kubernetes.default.svc" = none := by decide

end StackOperator.Net
