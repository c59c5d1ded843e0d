/-
# File trees

A file tree gives an entry to some absolute paths: a directory, a file with its
octets, or a link with its target.  A path is looked up part by part from the
root or from the working directory; links on the way are followed, up to a fixed
number of them.

The operations are those that the generator needs, with the faults of POSIX: a
path through a file is a fault of its own, a missing last part is one for reading
and none for writing, and no name is longer than 255 octets.
-/
import ClientGen.Files.Fault
import ClientGen.Files.Path
import ClientGen.Ordered
import ClientGen.Text.Utf8

namespace ClientGen

/-- What stands at a path. -/
inductive FileEntry
  | directory
  | file (octets : List UInt8)
  | link (target : Text)
  deriving DecidableEq, Repr

/-- A file tree with its working directory; paths are given by their parts. -/
structure FileTree where
  entries : List (List Text × FileEntry) := []
  workingDirectory : List Text := []
  deriving DecidableEq, Repr

/-- Why an operation on files failed: for a fault of the file system, or because
the path has a null character. -/
inductive FileError
  | fault (fault : FileFault)
  | nullCharacter
  deriving DecidableEq, Repr

/-- What a path leads to: an entry, or a free name in a directory; `asDirectory`
says whether a slash follows the name. -/
inductive Place
  | entry (path : List Text) (entry : FileEntry)
  | vacant (path : List Text) (asDirectory : Bool)
  deriving DecidableEq, Repr

/-- What a walk without links comes to: a place, or a link on the way with the
directory it is in and the parts after it. -/
inductive Walk
  | place (place : Place)
  | link (directory : List Text) (target : Text) (rest : List Text)
  deriving DecidableEq, Repr

namespace FileTree

/-- The greatest length of a name, in octets. -/
def maxNameLength : Nat := 255

/-- The length from which on a path is too long, in octets. -/
def maxPathLength : Nat := 4096

/-- The greatest number of links on the way of one path. -/
def maxLinks : Nat := 40

/-- The entry at a path; the root is a directory. -/
def entry? (tree : FileTree) (path : List Text) : Option FileEntry :=
  if path.isEmpty then some .directory else Ordered.get? path tree.entries

/-- Gives a path an entry. -/
def put (tree : FileTree) (path : List Text) (entry : FileEntry) : FileTree :=
  { tree with entries := Ordered.put path entry tree.entries }

/-- The size of a text in octets. -/
def size (t : Text) : Nat := (Utf8.encode t).length

/-- Walks from the directory `here` along the given parts, up to the end or to a
link.  A link at the very end counts only where `follow` holds. -/
def walk (tree : FileTree) (follow : Bool) (here : List Text) :
    List Text → Except FileFaultKind Walk
  | [] => .ok (.place (.entry here .directory))
  | part :: rest =>
    if part.isEmpty || part = ['.'] then walk tree follow here rest
    else if part = ['.', '.'] then walk tree follow here.dropLast rest
    else if size part > maxNameLength then .error .nameTooLong
    else
      let path := here ++ [part]
      match tree.entry? path with
      | some .directory => walk tree follow path rest
      | some (.file octets) =>
        if rest.isEmpty then .ok (.place (.entry path (.file octets))) else .error .notDirectory
      | some (.link target) =>
        if rest.isEmpty && ! follow then .ok (.place (.entry path (.link target)))
        else .ok (.link here target rest)
      | none =>
        if rest.all List.isEmpty then .ok (.place (.vacant path (! rest.isEmpty)))
        else .error .noEntry

/-- Walks along the given parts through at most `links` links. -/
def resolve (tree : FileTree) (follow : Bool) :
    Nat → List Text → List Text → Except FileFaultKind Place
  | links, here, parts =>
    match walk tree follow here parts with
    | .error kind => .error kind
    | .ok (.place place) => .ok place
    | .ok (.link directory target rest) =>
      match links with
      | 0 => .error .linkLoop
      | links + 1 =>
        resolve tree follow links (if Path.isAbsolute target then [] else directory)
          (Path.parts target ++ rest)

/-- The place that a path leads to. -/
def locate (tree : FileTree) (follow : Bool) (path : Text) : Except FileError Place :=
  if path.elem '\x00' then .error .nullCharacter
  else
    let found :=
      if path.isEmpty then .error .noEntry
      else if size path ≥ maxPathLength then .error .nameTooLong
      else resolve tree follow maxLinks
        (if Path.isAbsolute path then [] else tree.workingDirectory) (Path.parts path)
    match found with
    | .ok place => .ok place
    | .error kind => .error (.fault ⟨kind, path⟩)

/-- The entry that a path leads to, if it leads to one. -/
def find? (tree : FileTree) (path : Text) : Option FileEntry :=
  match tree.locate true path with
  | .ok (.entry _ entry) => some entry
  | _ => none

/-- Whether a path leads to something. -/
def has (tree : FileTree) (path : Text) : Bool := (tree.find? path).isSome

/-- Whether a path leads to a file. -/
def hasFile (tree : FileTree) (path : Text) : Bool :=
  match tree.find? path with
  | some (.file _) => true
  | _ => false

/-- Whether a path leads to a directory. -/
def hasDirectory (tree : FileTree) (path : Text) : Bool := tree.find? path = some .directory

/-- The octets of the file at a path. -/
def read (tree : FileTree) (path : Text) : Except FileError (List UInt8) :=
  match tree.locate true path with
  | .error e => .error e
  | .ok (.entry _ (.file octets)) => .ok octets
  | .ok (.entry _ _) => .error (.fault ⟨.isDirectory, path⟩)
  | .ok (.vacant ..) => .error (.fault ⟨.noEntry, path⟩)

/-- Writes a file, new or in the place of the old. -/
def write (tree : FileTree) (path : Text) (octets : List UInt8) : Except FileError FileTree :=
  match tree.locate true path with
  | .error e => .error e
  | .ok (.entry place (.file _)) => .ok (tree.put place (.file octets))
  | .ok (.vacant place false) => .ok (tree.put place (.file octets))
  | .ok _ => .error (.fault ⟨.isDirectory, path⟩)

/-- Makes one directory. -/
def makeDirectory (tree : FileTree) (path : Text) : Except FileError FileTree :=
  match tree.locate false path with
  | .error e => .error e
  | .ok (.vacant place _) => .ok (tree.put place .directory)
  | .ok (.entry ..) => .error (.fault ⟨.exists, path⟩)

/-- The directory and the last part of a path; a slash at its end does not
count. -/
def cutLast (path : Text) : Text × Text :=
  if (Path.lastPart path).isEmpty then
    (Path.directory (Path.directory path), Path.lastPart (Path.directory path))
  else (Path.directory path, Path.lastPart path)

/-- Makes one directory where there is none yet. -/
def ensureDirectory (tree : FileTree) (path : Text) : FileTree × Option FileError :=
  match tree.makeDirectory path with
  | .ok made => (made, none)
  | .error e => (tree, if tree.hasDirectory path then none else some e)

/-- Whether an error says that something was there already. -/
def isExists : FileError → Bool
  | .fault ⟨.exists, _⟩ => true
  | _ => false

/-- Makes a directory and, before it, the missing ones above, at most `depth`
levels of them.  What was made before an error stays. -/
def makeDirectoriesFrom : Nat → FileTree → Text → FileTree × Option FileError
  | 0, tree, path => ensureDirectory tree path
  | depth + 1, tree, path =>
    let (above, last) := cutLast path
    if ! above.isEmpty && ! last.isEmpty && ! tree.has above then
      match makeDirectoriesFrom depth tree above with
      | (made, some e) => if isExists e then finish made last path else (made, some e)
      | (made, none) => finish made last path
    else ensureDirectory tree path
where
  /-- The last directory; one by the name of a dot is there with the one above. -/
  finish (tree : FileTree) (last path : Text) : FileTree × Option FileError :=
    if last = ['.'] then (tree, none) else ensureDirectory tree path

/-- Makes a directory with all that are missing above it. -/
def makeDirectories (tree : FileTree) (path : Text) : FileTree × Option FileError :=
  makeDirectoriesFrom path.length tree path

end FileTree

end ClientGen
