import StackOperator.Command.Help

/-!
# Reading the command line

The arguments are read left to right.

* `--name=value` gives an option its value at once; `--name` takes the next
  argument as its value, unless that argument is itself an option. An option
  is taken up (checked and recorded) when the next option starts or the
  arguments end; a value that cannot be read, an option without a value and
  an option given twice are refused then.
* `--help` and `-h` show the help as soon as they are met.
* An unknown option, a short option other than `-h` and any other argument
  are refused, an unknown long option with the most similar option as a tip.
  The option waiting for its value is taken up first, and its own problem,
  if any, is not reported.
* After `--` every argument is refused as an argument.

Options not given are then taken from their environment variables, in the
order of the options, and refused like values from the command line; the
remaining options with defaults get them. A required option that has no
value at all is reported last.

Main statement: `readArgs_short_help`, `-h` shows the help as soon as it is met,
whatever follows it.
-/

namespace StackOperator.Command

/-- Where an option's value came from. -/
inductive Source where
  | commandLine
  | environment
  | default
  deriving DecidableEq, Repr

/-- What has been read of the command line. -/
structure Reading where
  /-- The options taken up, in that order, with the source of their value. -/
  taken : List (String × Source) := []
  /-- The values read, by option. -/
  values : List (String × String) := []
  /-- The option waiting to be taken up, with the values given to it so far. -/
  pending : Option (String × List String) := none
  /-- Whether the pending option still wants a value. -/
  wantsValue : Bool := false
  /-- Whether a `--` was met. -/
  escaped : Bool := false

namespace Reading

/-- The options taken up from the command line or the environment. -/
def used (r : Reading) : List String :=
  (r.taken.filter fun (_, s) => s != .default).map (·.1)

/-- Take up option `o` with `values` from a source: what has been read after
it, and the problem with it, if any. The option is recorded before its value
is read. -/
def take (r : Reading) (o : OptionSpec) (values : List String) (source : Source) :
    Reading × Option ParseError :=
  if source == .commandLine && values.isEmpty then (r, some (.valueRequired o))
  else if r.taken.any (·.1 == o.long) then
    ({ r with taken := r.taken.filter (·.1 != o.long) }, some (.repeated o))
  else
    let r := { r with taken := r.taken ++ [(o.long, source)] }
    match values with
    | [] => (r, none)
    | v :: _ =>
      match o.kind.fault v with
      | some f => (r, some (.invalidValue o v f))
      | none => ({ r with values := r.values ++ [(o.long, v)] }, none)

/-- Take up the pending option, if any. -/
def settle (r : Reading) : Reading × Option ParseError :=
  match r.pending with
  | none => (r, none)
  | some (name, values) =>
    let r := { r with pending := none, wantsValue := false }
    match optionNamed? name with
    | some o => r.take o values .commandLine
    | none => (r, none)

end Reading

/-- Where reading the command line stops early. -/
inductive Stop where
  /-- Show the help. -/
  | help
  | refused (e : ParseError)
  deriving Repr

/-- Settle the pending option, stopping on its problem. -/
def settled (r : Reading) : Except Stop Reading :=
  match r.settle with
  | (r, none) => .ok r
  | (_, some e) => .error (.refused e)

/-- Refuse an argument that is not an option of the command. -/
def refuseArgument (arg : String) (suggestion : Option String) (used : List String) : Except Stop Reading :=
  .error (.refused (.unknownArgument arg suggestion used))

/-- The names of the long arguments, `help` last. -/
def longNames : List String := operatorOptions.map (·.long) ++ ["help"]

/-- Read a long argument `--text`. -/
def readLong (r : Reading) (text : String) : Except Stop Reading :=
  let (name, value) := match text.splitOn "=" with
    | [n] => (n, none)
    | n :: rest => (n, some ("=".intercalate rest))
    | [] => (text, none)
  if name == "help" then
    match value with
    | some v => .error (.refused (.unexpectedValue v (r.used ++ ["help"])))
    | none => do
      let _ ← settled r
      .error .help
  else
    match optionNamed? name with
    | some o =>
      match value with
      | some v => do
        let r ← settled r
        match r.take o [v] .commandLine with
        | (r, none) => .ok r
        | (_, some e) => .error (.refused e)
      | none => do
        let r ← settled r
        .ok { r with pending := some (o.long, []), wantsValue := true }
    | none =>
      let suggestion := Text.closest name longNames
      refuseArgument ("--" ++ name) suggestion (r.settle.1.used ++ suggestion.toList)

/-- Read a cluster of short options `-cs`. -/
def readShort (r : Reading) : List Char → Except Stop Reading
  | [] => .ok r
  | 'h' :: _ => do
    let _ ← settled r
    .error .help
  | c :: _ => refuseArgument ("-" ++ String.singleton c) none []

/-- Read the arguments. -/
def readArgs (r : Reading) : List String → Except Stop Reading
  | [] => .ok r
  | arg :: rest =>
    if !r.escaped && arg == "--" then readArgs { r with escaped := true } rest
    else if !r.escaped && arg.startsWith "--" then do
      readArgs (← readLong r (arg.drop 2).toString) rest
    else if !r.escaped && arg.startsWith "-" && 1 < arg.length then do
      readArgs (← readShort r (arg.drop 1).toString.toList) rest
    else if !r.escaped && r.wantsValue then
      match r.pending with
      | some (name, values) => readArgs { r with pending := some (name, values ++ [arg]), wantsValue := false } rest
      | none => readArgs { r with wantsValue := false } rest
    else refuseArgument arg none []

/-- Take up the options not given from their environment variables. -/
def fromEnvironment (env : Environment) (r : Reading) : List OptionSpec → Except Stop Reading
  | [] => .ok r
  | o :: rest =>
    if r.taken.any (·.1 == o.long) then fromEnvironment env r rest
    else
      match env.lookup o.env with
      | none => fromEnvironment env r rest
      | some v =>
        match r.take o [v] .environment with
        | (r, none) => fromEnvironment env r rest
        | (_, some e) => .error (.refused e)

/-- Give the options still without a value their defaults. -/
def withDefaults (r : Reading) : Reading :=
  operatorOptions.foldl (fun r o =>
    match o.default with
    | some d =>
      if r.taken.any (·.1 == o.long) then r
      else { r with taken := r.taken ++ [(o.long, .default)], values := r.values ++ [(o.long, d)] }
    | none => r) r

/-- Read the command line in an environment: the value of every option that has one. -/
def parse (env : Environment) (args : List String) : Except Stop (List (String × String)) := do
  let r ← readArgs {} args
  let r ← settled r
  let r ← fromEnvironment env r operatorOptions
  let r := withDefaults r
  let missing := requiredOptions.filter fun o => !r.taken.any (·.1 == o.long)
  if missing.isEmpty then pure r.values
  else throw (.refused (.missing missing (r.used ++ missing.map (·.long))))

theorem settled_of_idle {r : Reading} (idle : r.pending = none) : settled r = .ok r := by
  simp [settled, Reading.settle, idle]

/-- `-h`, met before `--` while no option waits to be taken up, shows the help, whatever follows it. -/
theorem readArgs_short_help {r : Reading} (idle : r.pending = none) (unescaped : r.escaped = false)
    (rest : List String) : readArgs r ("-h" :: rest) = .error .help := by
  have short : readShort r ['h'] = .error .help := by
    simp [readShort, settled_of_idle idle]
    rfl
  have twoChars : 1 < "-h".length := by decide
  simp [readArgs, unescaped, short, twoChars]
  rfl

end StackOperator.Command
