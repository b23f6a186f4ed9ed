import StackOperator.Command.Launch

/-!
# The operator's command line

`main` reads the command line and the operator's environment variables and
starts the operator as `launch` says: it prints the help or the reason the
command line is refused and exits with the status of the start, and
otherwise keeps serving until it is stopped.
-/

namespace StackOperator.Command

/-- The operator's environment variables that are set, with those that lead
to the cluster. -/
def readEnvironment : IO Environment := do
  let mut env : Environment := []
  for name in operatorOptions.map (·.env) ++ clusterVariables do
    if let some v ← IO.getEnv name then
      env := env ++ [(name, v)]
  pure env

/-- The fault of a failed read. -/
def faultOf : IO.Error → Fault
  | .noFileOrDirectory .. => .notFound
  | .inappropriateType _ code _ => if code == 20 then .notDirectory else .isDirectory
  | _ => .notFound

/-- Read the files that lead to the cluster, each with its contents or fault. -/
def readClusterFiles (env : Environment) : IO (List (String × Except Fault String)) := do
  let mut files := []
  for path in kubeconfigPaths env ++ [namespacePath, certificatePath] do
    let contents ← try pure (Except.ok (← IO.FS.readFile path)) catch e => pure (.error (faultOf e))
    files := files ++ [(path, contents)]
  pure files

/-- Keep serving until stopped. -/
partial def serveUntilStopped : IO Unit := do
  IO.sleep 60000
  serveUntilStopped

end StackOperator.Command

open StackOperator.Command in
/-- Start the operator with the command line. -/
def main (args : List String) : IO UInt32 := do
  let env ← readEnvironment
  let files ← readClusterFiles env
  let access := findCluster env fun path => (files.lookup path).getD (.error .notFound)
  match launch env args access with
  | .help text =>
    IO.print text
    pure 0
  | .refused message =>
    IO.eprint message
    pure 2
  | .failed message =>
    IO.eprint message
    pure 1
  | .serve _ _ =>
    serveUntilStopped
    pure 0
