/-!
# Directories and files

A small model of the directories and files a program sees. A path is
absolute or relative to the working directory, and is taken apart into its
components; empty components and `.` are dropped, as they name nothing. The
root and the working directory always exist as directories.

Reading, making a directory or writing a file looks at the ancestors of the path from
the top: the first that is missing fails with `No such file or directory`,
the first that is a file with `Not a directory`. Making a directory where
something already stands fails with `File exists`; writing a file where a
directory stands fails with `Is a directory`, and so does reading one.

`createDirAll` makes a directory with its missing ancestors: it makes the
directory, and when an ancestor is missing makes the parent first and then
tries again. Where a directory already stands it succeeds.

Main statement: `isDirectory_of_createDirAll`, a directory made with its ancestors
stands where it was asked for.
-/

namespace StackOperator

/-- Why an operation on a disk failed. -/
inductive Fault where
  | notFound
  | alreadyExists
  | notDirectory
  | isDirectory
  deriving DecidableEq, Repr

/-- The report of a fault, with its error number. -/
def Fault.message : Fault → String
  | .notFound => "No such file or directory (os error 2)"
  | .alreadyExists => "File exists (os error 17)"
  | .notDirectory => "Not a directory (os error 20)"
  | .isDirectory => "Is a directory (os error 21)"

/-- A path: whether it starts at the root, and its components. -/
structure Path where
  absolute : Bool
  parts : List String
  deriving DecidableEq, Repr

/-- A path read from its text. -/
def Path.ofString (s : String) : Path :=
  ⟨s.startsWith "/", (s.splitOn "/").filter fun p => !p.isEmpty && p != "."⟩

/-- What stands at a path. -/
inductive Entry where
  | directory
  | file (contents : String)
  deriving DecidableEq, Repr

/-- Directories and files by path. -/
structure Disk where
  entries : List (Path × Entry) := []

namespace Disk

/-- What stands at a path; the root and the working directory are directories. -/
def lookup (d : Disk) (p : Path) : Option Entry :=
  if p.parts.isEmpty then some .directory else d.entries.lookup p

/-- Whether a directory stands at a path. -/
def isDirectory (d : Disk) (p : Path) : Bool := d.lookup p == some .directory

/-- The first fault on the way to the components `parts` below `base`. -/
def reach (d : Disk) (absolute : Bool) (base : List String) : List String → Option Fault
  | [] => none
  | part :: rest =>
    let here := base ++ [part]
    match d.lookup ⟨absolute, here⟩ with
    | none => some .notFound
    | some (.file _) => some .notDirectory
    | some .directory => reach d absolute here rest

/-- The fault on the way to the parent of a path, if any. -/
def reachParent (d : Disk) (p : Path) : Option Fault := d.reach p.absolute [] p.parts.dropLast

/-- Put an entry at a path, in place of what stood there. -/
def put (d : Disk) (p : Path) (e : Entry) : Disk :=
  ⟨(p, e) :: d.entries.filter (·.1 != p)⟩

/-- Make one directory. -/
def makeDirectory (d : Disk) (p : Path) : Except Fault Disk :=
  match d.reachParent p with
  | some f => .error f
  | none => if (d.lookup p).isSome then .error .alreadyExists else .ok (d.put p .directory)

/-- Make the directory with components `parts` given in reverse, and its missing ancestors. -/
def createReversed (d : Disk) (absolute : Bool) : List String → Except Fault Disk
  | [] => .ok d
  | part :: up =>
    let p : Path := ⟨absolute, (part :: up).reverse⟩
    match d.makeDirectory p with
    | .ok d => .ok d
    | .error .notFound =>
      match d.createReversed absolute up with
      | .error f => .error f
      | .ok d =>
        match d.makeDirectory p with
        | .ok d => .ok d
        | .error f => if d.isDirectory p then .ok d else .error f
    | .error f => if d.isDirectory p then .ok d else .error f

/-- Make a directory and its missing ancestors. -/
def createDirAll (d : Disk) (p : Path) : Except Fault Disk := d.createReversed p.absolute p.parts.reverse

theorem isDirectory_put_directory (d : Disk) (p : Path) : (d.put p .directory).isDirectory p = true := by
  unfold isDirectory lookup put
  split <;> simp

/-- A directory made stands where it was asked for. -/
theorem isDirectory_of_makeDirectory {d d' : Disk} {p : Path} (made : d.makeDirectory p = .ok d') :
    d'.isDirectory p = true := by
  unfold makeDirectory at made
  split at made
  · cases made
  · split at made
    · cases made
    · cases made
      exact isDirectory_put_directory d p

/-- A directory found standing where making it failed. -/
theorem isDirectory_of_standing {d d' : Disk} {p : Path} {f : Fault}
    (found : (if d.isDirectory p = true then .ok d else .error f) = (.ok d' : Except Fault Disk)) :
    d'.isDirectory p = true := by
  split at found
  · cases found
    assumption
  · cases found

/-- Making a directory with its missing ancestors leaves a directory at the path. -/
theorem isDirectory_of_createReversed {absolute : Bool} :
    ∀ {d d' : Disk} {up : List String}, d.createReversed absolute up = .ok d' →
      d'.isDirectory ⟨absolute, up.reverse⟩ = true
  | d, d', [], made => by
    cases made
    simp [isDirectory, lookup]
  | d, d', part :: up, made => by
    unfold createReversed at made
    dsimp only at made
    cases first : d.makeDirectory ⟨absolute, (part :: up).reverse⟩ with
    | ok d₁ =>
      rw [first] at made
      cases made
      exact isDirectory_of_makeDirectory first
    | error f =>
      rw [first] at made
      cases f
      case notFound =>
        -- a missing ancestor: the ancestors are made, then the directory once more
        dsimp only at made
        cases ancestors : d.createReversed absolute up with
        | error g =>
          rw [ancestors] at made
          cases made
        | ok d₁ =>
          rw [ancestors] at made
          dsimp only at made
          cases again : d₁.makeDirectory ⟨absolute, (part :: up).reverse⟩ with
          | ok d₂ =>
            rw [again] at made
            cases made
            exact isDirectory_of_makeDirectory again
          | error g =>
            rw [again] at made
            exact isDirectory_of_standing made
      -- any other fault: the directory may stand already
      all_goals exact isDirectory_of_standing made

/-- Making a directory with its missing ancestors leaves a directory at the path. -/
theorem isDirectory_of_createDirAll {d d' : Disk} {p : Path} (made : d.createDirAll p = .ok d') :
    d'.isDirectory p = true := by
  simpa using isDirectory_of_createReversed made

/-- Write a file, in place of a file that stood there. -/
def write (d : Disk) (p : Path) (contents : String) : Except Fault Disk :=
  match d.reachParent p with
  | some f => .error f
  | none =>
    match d.lookup p with
    | some .directory => .error .isDirectory
    | _ => .ok (d.put p (.file contents))

/-- Read a file: the first fault on the way to it, `Is a directory` where a
directory stands, `No such file or directory` where nothing does. -/
def read (d : Disk) (p : Path) : Except Fault String :=
  match d.reachParent p with
  | some f => .error f
  | none =>
    match d.lookup p with
    | some .directory => .error .isDirectory
    | some (.file contents) => .ok contents
    | none => .error .notFound

/-- Read the file a path text names; a text that ends in `/` names a
directory, so a file there is `Not a directory`. -/
def readText (d : Disk) (s : String) : Except Fault String :=
  match d.read (Path.ofString s) with
  | .ok contents => if s.endsWith "/" then .error .notDirectory else .ok contents
  | .error f => .error f

/-- The files right inside a directory, by name, in name order. -/
def filesIn (d : Disk) (dir : Path) : List (String × String) :=
  let found := d.entries.filterMap fun (p, e) =>
    match e, p.parts.getLast? with
    | .file contents, some name =>
      if p = ⟨dir.absolute, dir.parts ++ [name]⟩ then some (name, contents) else none
    | _, _ => none
  found.mergeSort fun a b => decide (a.1 ≤ b.1)

end Disk

/-- The text of a path joined with a name below it. -/
def joinPath (dir name : String) : String :=
  if name.startsWith "/" then name
  else if dir.isEmpty then name
  else if dir.endsWith "/" then dir ++ name
  else dir ++ "/" ++ name

end StackOperator
