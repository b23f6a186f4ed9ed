import StackOperator.Resource.Definition
import StackOperator.Json.Yaml
import StackOperator.Disk

/-!
# Writing the resource definitions

The definition generator writes the definitions of the three kinds as YAML
documents. Without `--out-dir` it prints them, each after a `---` line and
followed by an empty line. With `--out-dir DIR` (the argument after the
first `--out-dir`) it makes the directory with its missing ancestors and
writes each definition into a file of its own there, a `---` line first,
reporting each file on the error stream.

A directory that cannot be made, or a file that cannot be written, stops the
generator with status 1 and the reason.

Main statement: `outDirOf_eq_some`, the directory is the argument after the
first `--out-dir`.
-/

namespace StackOperator.Command

/-- How a run of the generator ended: its status, what it printed and
reported, and the disk it leaves. -/
structure Finished where
  code : Nat
  stdout : String := ""
  stderr : String := ""
  disk : Disk

/-- The directory to write to: the argument after the first `--out-dir`. -/
def outDirOf (args : List String) : Option String :=
  match args.dropWhile (· != "--out-dir") with
  | _ :: dir :: _ => some dir
  | _ => none

/-- The directory is the argument after the first `--out-dir`. -/
theorem outDirOf_eq_some {dir : String} : ∀ {args : List String},
    outDirOf args = some dir ↔ ∃ before rest, args = before ++ "--out-dir" :: dir :: rest ∧ "--out-dir" ∉ before
  | [] => by simp [outDirOf]
  | a :: more => by
    by_cases flag : a = "--out-dir"
    · -- the first argument is the flag: the directory follows it
      subst flag
      constructor
      · intro found
        cases more with
        | nil => simp [outDirOf] at found
        | cons d rest =>
          simp only [outDirOf, List.dropWhile_cons, bne_self_eq_false, Bool.false_eq_true, if_false,
            Option.some.injEq] at found
          exact ⟨[], rest, by rw [found]; rfl, List.not_mem_nil⟩
      · rintro ⟨before, rest, split, unflagged⟩
        cases before with
        | nil =>
          simp only [List.nil_append, List.cons.injEq, true_and] at split
          simp [outDirOf, split]
        | cons b before =>
          simp only [List.cons_append, List.cons.injEq] at split
          exact absurd (split.1 ▸ List.mem_cons_self) unflagged
    · -- another argument is skipped
      have skipped : outDirOf (a :: more) = outDirOf more := by
        simp [outDirOf, flag]
      rw [skipped, outDirOf_eq_some]
      constructor
      · rintro ⟨before, rest, split, unflagged⟩
        exact ⟨a :: before, rest, by rw [split]; rfl, by simp [Ne.symm flag, unflagged]⟩
      · rintro ⟨before, rest, split, unflagged⟩
        cases before with
        | nil => exact absurd (List.cons.inj split).1 flag
        | cons b before =>
          simp only [List.cons_append, List.cons.injEq] at split
          exact ⟨before, rest, split.2, fun listed => unflagged (List.mem_cons_of_mem _ listed)⟩

/-- The YAML documents of the definitions, each with the name of its file. -/
def definitionDocuments : List (String × String) :=
  Definition.definitions.map fun (name, k) => (name, Json.Yaml.document k.toValue)

/-- The report of a failure in a context. -/
def failureReport (context : String) (f : Fault) : String :=
  "Error: " ++ context ++ "\n\nCaused by:\n    " ++ f.message ++ "\n"

/-- Write documents into a directory, reporting each file; stop at the first
that cannot be written. -/
def writeAll (dir : String) (d : Disk) (report : String) : List (String × String) → Finished
  | [] => { code := 0, stderr := report, disk := d }
  | (name, doc) :: rest =>
    let path := joinPath dir name
    match d.write (Path.ofString path) ("---\n" ++ doc) with
    | .error f => { code := 1, stderr := report ++ failureReport ("failed to write " ++ path) f, disk := d }
    | .ok d => writeAll dir d (report ++ "wrote " ++ path ++ "\n") rest

/-- Run the generator with its arguments on a disk. -/
def generate (args : List String) (d : Disk) : Finished :=
  match outDirOf args with
  | none => { code := 0, stdout := String.join (definitionDocuments.map fun (_, doc) => "---\n" ++ doc ++ "\n"), disk := d }
  | some dir =>
    match d.createDirAll (Path.ofString dir) with
    | .error f => { code := 1, stderr := failureReport ("failed to create " ++ dir) f, disk := d }
    | .ok d => writeAll dir d "" definitionDocuments

end StackOperator.Command
