import StackOperator.Command.Options
import StackOperator.Text.Similarity
import StackOperator.Text.Quoted

/-!
# Help and usage

The help lists what the program is, its usage and every option with its
help, its environment variable and the variable's current value, its
default and its possible values; `-h, --help` comes last. Each option's
help stands on the line below the option, and every line of it is indented,
also those that a variable's value breaks.

A usage line names the program and the options that matter: the full usage
marks the other options as `[OPTIONS]` before the required ones, and the
usage of an error names the required options and then those the command
line used.

An error is shown as `error: ` and the problem, then the usage when the
problem calls for it, then the advice to try `--help`.

Main statements: `mem_dedupFrom` and `nodup_dedupFrom`, the usage of an
error names each required option and each option the command line used,
and none twice.
-/

namespace StackOperator.Command

/-- Environment variables by name. -/
abbrev Environment := List (String × String)

/-- The options of the operator by name. -/
def optionNamed? (name : String) : Option OptionSpec := operatorOptions.find? (·.long == name)

/-- How an argument of the command is shown: `--name <NAME>`, or `--help`. -/
def argDisplay (name : String) : String :=
  match optionNamed? name with
  | some o => o.display
  | none => "--" ++ name

/-- The required options. -/
def requiredOptions : List OptionSpec := operatorOptions.filter (·.required)

/-- The full usage. -/
def fullUsage : String :=
  programName ++ " [OPTIONS]" ++ String.join (requiredOptions.map fun o => " " ++ o.display)

/-- Names without repetition, each kept where it first appears, skipping those in `seen`. -/
def dedupFrom (seen : List String) : List String → List String
  | [] => []
  | x :: xs => if seen.contains x then dedupFrom seen xs else x :: dedupFrom (x :: seen) xs

/-- A name is kept when it is listed and not already seen. -/
theorem mem_dedupFrom {x : String} : ∀ {seen xs : List String}, x ∈ dedupFrom seen xs ↔ x ∈ xs ∧ x ∉ seen
  | _, [] => by simp [dedupFrom]
  | seen, y :: ys => by
    unfold dedupFrom
    by_cases known : seen.contains y
    · rw [if_pos known, mem_dedupFrom]
      have : y ∈ seen := by simpa using known
      grind
    · rw [if_neg known, List.mem_cons, mem_dedupFrom]
      have : y ∉ seen := by simpa using known
      grind

/-- No name is kept twice. -/
theorem nodup_dedupFrom : ∀ (seen xs : List String), (dedupFrom seen xs).Nodup
  | _, [] => List.nodup_nil
  | seen, y :: ys => by
    unfold dedupFrom
    split
    · exact nodup_dedupFrom seen ys
    · -- the rest is kept with `y` seen, so it holds no second `y`
      refine List.nodup_cons.mpr ⟨fun again => ?_, nodup_dedupFrom (y :: seen) ys⟩
      exact (mem_dedupFrom.mp again).2 List.mem_cons_self

/-- The usage of an error, given the arguments the command line used. -/
def usageFor (used : List String) : String :=
  if used.isEmpty then fullUsage
  else programName ++ String.join ((dedupFrom [] (requiredOptions.map (·.long) ++ used)).map fun n => " " ++ argDisplay n)

/-- A value in a list of values, quoted when it has white space. -/
def listedValue (v : String) : String :=
  if v.any Char.isWhitespace then Text.quoted v else v

/-- `[possible values: a, b]`, or nothing without possible values. -/
def possibleValues (values : List String) : List String :=
  if values.isEmpty then [] else ["[possible values: " ++ ", ".intercalate (values.map listedValue) ++ "]"]

/-- What the help says about an option besides its help: its environment
variable with its current value, its default and its possible values. -/
def specNotes (env : Environment) (o : OptionSpec) : List String :=
  ["[env: " ++ o.env ++ "=" ++ (env.lookup o.env).getD "" ++ "]"] ++
    (o.default.map fun d => ["[default: " ++ listedValue d ++ "]"]).getD [] ++
    possibleValues o.kind.possible

/-- The indentation of an option's help. -/
def helpIndent : String := "          "

/-- The help of one option: every line of it indented. -/
def optionHelp (env : Environment) (o : OptionSpec) : String :=
  let notes := " ".intercalate (specNotes env o)
  let text := if o.help.isEmpty then notes else o.help ++ " " ++ notes
  "      " ++ o.display ++ "\n" ++ helpIndent ++ text.replace "\n" ("\n" ++ helpIndent) ++ "\n"

/-- The help of the command. -/
def helpText (env : Environment) : String :=
  about ++ "\n\nUsage: " ++ fullUsage ++ "\n\nOptions:\n" ++
    String.join (operatorOptions.map (optionHelp env)) ++ "  -h, --help\n          Print help\n"

/-- Why the command line was refused. -/
inductive ParseError where
  /-- An argument that is no option, with a similar option if there is one. -/
  | unknownArgument (arg : String) (suggestion : Option String) (used : List String)
  /-- An option without its value. -/
  | valueRequired (o : OptionSpec)
  /-- A value that cannot be read. -/
  | invalidValue (o : OptionSpec) (value : String) (fault : ValueFault)
  /-- An option given twice. -/
  | repeated (o : OptionSpec)
  /-- Required options that were not given. -/
  | missing (options : List OptionSpec) (used : List String)
  /-- A value given to `--help`. -/
  | unexpectedValue (value : String) (used : List String)
  deriving Repr

/-- A tip that names a similar argument or value. -/
def similarTip (what candidate : String) : String :=
  "\n\n  tip: a similar " ++ what ++ " exists: '" ++ candidate ++ "'"

/-- The problem an error states, with its usage when it has one. -/
def ParseError.problem : ParseError → String
  | .unknownArgument arg suggestion used =>
    "unexpected argument '" ++ arg ++ "' found" ++
      (suggestion.map fun s => similarTip "argument" ("--" ++ s)).getD "" ++ "\n\nUsage: " ++ usageFor used
  | .valueRequired o =>
    "a value is required for '" ++ o.display ++ "' but none was supplied" ++
      String.join ((possibleValues o.kind.possible).map ("\n  " ++ ·))
  | .invalidValue o value (.refused reason) =>
    "invalid value '" ++ value ++ "' for '" ++ o.display ++ "': " ++ reason
  | .invalidValue o value (.notPossible possible) =>
    (if value.isEmpty then "a value is required for '" ++ o.display ++ "' but none was supplied"
     else "invalid value '" ++ value ++ "' for '" ++ o.display ++ "'") ++
      String.join ((possibleValues possible).map ("\n  " ++ ·)) ++
      ((Text.closest value possible).map (similarTip "value")).getD ""
  | .repeated o =>
    "the argument '" ++ o.display ++ "' cannot be used multiple times\n\nUsage: " ++ usageFor []
  | .missing options used =>
    "the following required arguments were not provided:" ++
      String.join (options.map fun o => "\n  " ++ o.display) ++ "\n\nUsage: " ++ usageFor used
  | .unexpectedValue value used =>
    "unexpected value '" ++ value ++ "' for '--help' found; no more were expected\n\nUsage: " ++ usageFor used

/-- The text of an error. -/
def ParseError.render (e : ParseError) : String :=
  "error: " ++ e.problem ++ "\n\nFor more information, try '--help'.\n"

end StackOperator.Command
