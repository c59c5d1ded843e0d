/-
# The program

The command line over the real file system.  What the command looks at is read
into a file tree, the command is run on it as a function, and what it changed is
written back.  There is no network here: a document comes from a file.
-/
import ClientGen.Command.Run
import ClientGen.Http.Client

namespace ClientGen.Program

/-- The path of an entry, as the operating system takes it. -/
def pathText (path : List Text) : String := String.ofList ('/' :: Text.joinWith "/" path)

/-- What stands at a path whose parent is a directory. -/
def entryAt (path : List Text) : IO (Option FileEntry) := do
  try
    let octets ← IO.FS.readBinFile (pathText path)
    return some (.file octets.toList)
  catch
    | .inappropriateType .. => return some .directory
    | _ => return none

/-- A tree with the entries of a path and of all above it. -/
def observe (tree : FileTree) (path : List Text) : IO FileTree := do
  let mut seen := tree
  for n in List.range path.length do
    let here := path.take (n + 1)
    if (seen.entry? here).isNone && seen.entry? here.dropLast = some .directory then
      if let some entry ← entryAt here then
        seen := seen.put here entry
  return seen

/-- A tree with the entries of a path as a text. -/
def observeText (tree : FileTree) (path : Text) : IO FileTree :=
  let start := if Path.isAbsolute path then [] else tree.workingDirectory
  observe tree (Path.normalParts (start ++ Path.parts path))

/-- The entries of a tree that another one does not have. -/
def changes (before after : FileTree) : List (List Text × FileEntry) :=
  after.entries.filter fun (path, entry) => before.entry? path != some entry

/-- Writes an entry. -/
def commit (path : List Text) : FileEntry → IO Unit
  | .directory => IO.FS.createDirAll (pathText path)
  | .file octets => IO.FS.writeBinFile (pathText path) (ByteArray.mk octets.toArray)
  | .link _ => pure ()

/-- The tree with all that a command line looks at: the configuration file, the
document, the directory of the client, and the files that are to be written. -/
def observed (environment : Option Text) (arguments : List Text) : IO FileTree := do
  let home := Path.normalParts (Path.parts (toString (← IO.currentDir)).toList)
  let tree ← observe { workingDirectory := home } home
  let mut tree ← observeText tree Config.fileName
  if let .ok arguments := Command.parse arguments then
    if let .ok config := Command.effectiveConfig Toml.ownLibrary tree arguments then
      let settings := Command.settingsOf config arguments environment
      for value in [settings.url, settings.directory] do
        if let .plain (.str path) := value then
          tree ← observeText tree path
  let outcome := Command.run tree (Http.client Http.offline) environment arguments
  for (path, _) in changes tree outcome.tree do
    tree ← observe tree path
  return tree

/-- Runs a command line and gives its exit code. -/
def run (arguments : List Text) : IO UInt32 := do
  let environment := (← IO.getEnv "SPEC_URL").map String.toList
  let tree ← observed environment arguments
  let outcome := Command.run tree (Http.client Http.offline) environment arguments
  for (path, entry) in changes tree outcome.tree do
    commit path entry
  if let .error (.misuse misuse) := Command.parse arguments then
    IO.eprintln (String.ofList (Command.usage ++ Command.misuseLine misuse))
    return Command.misuseCode.toNat.toUInt32
  IO.print (String.ofList outcome.output)
  match outcome.exit with
  | .ok code =>
    IO.eprint (String.ofList outcome.errors)
    return code.toNat.toUInt32
  | .error breakdown =>
    IO.eprint (String.ofList (outcome.errors ++ breakdown.message ++ ['\n']))
    return 1

end ClientGen.Program

/-- The entry point. -/
def main (arguments : List String) : IO UInt32 :=
  ClientGen.Program.run (arguments.map String.toList)
