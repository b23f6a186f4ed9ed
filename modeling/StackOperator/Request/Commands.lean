import StackOperator.Request.Basic
import StackOperator.Command.Launch
import StackOperator.Command.Generate

/-!
# Running the operator's command

`cli` starts the operator with a command line and an environment and
answers how the run went: its exit status, what it wrote to its output and
error streams, and whether it was still running when it was stopped. The
request may say that the health probe port is already taken. A request with
an `api` member runs beside a cluster; one without runs outside any cluster,
on a disk with the usual system directories and device files, where the
environment's kubeconfig files are looked for.

A start that ends at once exits with its status. A start that serves binds
the health probe address first: on a taken port the binding fails and the
program stops with status 101; otherwise it serves until it is stopped, with
no exit status. Trailing line ends of the streams, carriage returns before
line feeds and the advice on backtraces are not part of the answer; the
place in the program that stops it is shown as `<location>` and the health
address as `<health>`.

`crdgen` runs the definition generator with a command line on a disk with
the usual system directories and device files. When the request asks for an
output directory, the generator is pointed at a fresh directory `<dir>` and
the answer lists the files it holds afterwards.

Main statement: `runOf_exitCode`, a start that ends at once exits with its own
status.
-/

namespace StackOperator.Request

open Json Command

/-- How a run of a command went. -/
structure Run where
  /-- The exit status, none when the command was stopped while running. -/
  exitCode : Option Nat
  stdout : String := ""
  stderr : String := ""

/-- A text without its trailing line ends. -/
def trimLineEnds (s : String) : String :=
  String.ofList (s.toList.reverse.dropWhile (· = '\n')).reverse

/-- What a run writes to the error stream when the health probe port is taken. -/
def portTakenReport : String :=
  "\nthread 'main' panicked at <location>:\nerror binding to <health>: " ++
    "error creating server listener: Address already in use (os error 98)\n"

/-- How a start goes, with the health probe port taken or free. -/
def runOf (portTaken : Bool) : Launch → Run
  | .help text => { exitCode := some 0, stdout := text }
  | .refused message => { exitCode := some 2, stderr := message }
  | .failed message => { exitCode := some 1, stderr := message }
  | .serve _ _ => if portTaken then { exitCode := some 101, stderr := portTakenReport } else { exitCode := none }

/-- A start that ends at once exits with its own status, whether or not the port is taken. -/
theorem runOf_exitCode {l : Launch} {code : Nat} (portTaken : Bool) (ends : l.exitCode? = some code) :
    (runOf portTaken l).exitCode = some code := by
  cases l <;> cases ends <;> rfl

/-- The start of the advice on backtraces that a stopped program adds. -/
def backtraceNote : String := "note: run with \x60RUST_BACKTRACE=1\x60"

/-- A stream as the answer shows it: a carriage return before a line feed
is dropped, lines that start with the advice on backtraces are left out,
and so are trailing line ends. -/
def streamText (s : String) : String :=
  let lines := ((s.replace "\r\n" "\n").splitOn "\n").filter fun l => !l.startsWith backtraceNote
  trimLineEnds ("\n".intercalate lines)

/-- The answer of a run. -/
def Run.toValue (r : Run) : Value :=
  .obj [("exit_code", match r.exitCode with
          | some c => .num (.int c)
          | none => .null),
        ("stderr", .str (streamText r.stderr)),
        ("stdout", .str (streamText r.stdout)),
        ("timed_out", .bool r.exitCode.isNone)]

/-- The home directory of a run, unless its environment names one. -/
def runHome : String := "/nonexistent-oracle-home"

/-- A disk with the usual system directories and device files. -/
def hostDisk : Disk :=
  ⟨(["/bin", "/dev", "/etc", "/home", "/lib", "/proc", "/root", "/run", "/sys", "/tmp", "/usr",
    "/var"].map fun p => (Path.ofString p, Entry.directory)) ++
    (["/dev/null", "/dev/zero", "/dev/full", "/dev/random", "/dev/urandom", "/etc/passwd",
      "/etc/hosts"].map fun p => (Path.ofString p, Entry.file ""))⟩

/-- Start the operator with the request's command line and environment. -/
def cli (request : Value) : Outcome Value := do
  let args ← withDefault (Decode.list Decode.string) request "args" []
  let given ← withDefault strMap request "env" .empty
  let env := given.entries
  let portTaken ← withDefault Decode.bool request "occupy_health_port" false
  let access := if (request.get? "api").isSome then ClusterAccess.found
    else findCluster (env ++ [("HOME", runHome)]) hostDisk.readText
  pure (runOf portTaken (launch env args access)).toValue

/-- The fresh directory a request's output goes to. -/
def outputDirectory : String := "<dir>"

/-- Run the definition generator with the request's command line. -/
def crdgen (request : Value) : Outcome Value := do
  let args ← withDefault (Decode.list Decode.string) request "args" []
  let outDir ← maybe Decode.string request "out_dir"
  let args := args ++ if outDir.isSome then ["--out-dir", outputDirectory] else []
  let finished := generate args hostDisk
  let answer := (Run.mk (some finished.code) finished.stdout finished.stderr).toValue
  match outDir with
  | some _ => pure (answer.insert "files" (Value.ofStrMap (finished.disk.filesIn (Path.ofString outputDirectory))))
  | none => pure answer

end StackOperator.Request
