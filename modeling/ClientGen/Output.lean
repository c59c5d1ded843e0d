/-
# Writing a project

The files of a project are written one after the other into a directory, each
over whatever file of its name is there.  Writing stops at the first file that
cannot be written; the files before it stay, and those after it are not touched.
-/
import ClientGen.Code.Basic
import ClientGen.Failure
import ClientGen.Files.Tree
import ClientGen.Plan

namespace ClientGen.Output

/-- An error of the file system as an error of the generator: a fault becomes the
given failure. -/
def errorOf (failure : FileFault → Failure) : FileError → GenError
  | .fault fault => .failure (failure fault)
  | .nullCharacter => .breakdown .nullCharacter

/-- What has come of writing: the tree, the log, and the paths written or the
error that stopped it. -/
structure Written where
  tree : FileTree
  log : List LogEntry
  result : Except GenError (List Text)

/-- The operation counts of a plan by file name. -/
def counts (plan : Plan) : List (Text × Int) :=
  Ordered.ofPairs (plan.entries.map fun e => (e.fileName, e.operationCount))

/-- The note about a file that is written. -/
def note (counts : List (Text × Int)) (name path : Text) : LogEntry :=
  match Ordered.get? name counts with
  | some n => .info ("📝 Запись " ++ path ++ " (" ++ Text.ofInt n ++ " операций)")
  | none => .info ("📝 Запись " ++ path)

/-- Writes a text to a path, after making the directories above it. -/
def writeText (tree : FileTree) (path text : Text) : FileTree × Option FileError :=
  match tree.makeDirectories (Path.directory path) with
  | (made, some e) => (made, some e)
  | (made, none) =>
    match made.write path (Utf8.encode text) with
    | .ok written => (written, none)
    | .error e => (made, some e)

/-- Writes files in order. -/
def writeFiles (target : Text) (counts : List (Text × Int)) (tree : FileTree) :
    List Code.File → Written
  | [] => ⟨tree, [], .ok []⟩
  | file :: rest =>
    let path := Path.join target file.name
    let entry := note counts file.name path
    match writeText tree path file.text with
    | (tree, some e) => ⟨tree, [entry], .error (errorOf (Failure.unwritable path) e)⟩
    | (tree, none) =>
      let more := writeFiles target counts tree rest
      ⟨more.tree, entry :: more.log, more.result.map (path :: ·)⟩

/-- Writes the files of a project into a directory. -/
def write (tree : FileTree) (project : Code.Project) (target : Text) (plan : Plan) : Written :=
  match tree.makeDirectories target with
  | (tree, some e) => ⟨tree, [], .error (errorOf (Failure.noDirectory target) e)⟩
  | (tree, none) => writeFiles target (counts plan) tree project.files

end ClientGen.Output
