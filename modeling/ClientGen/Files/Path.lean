/-
# Paths

Paths as texts with slashes, and their lexical operations: cutting off the last
part, joining, and the normal form of an absolute path.
-/
import ClientGen.Text.Basic

namespace ClientGen.Path

/-- The parts of a path between its slashes. -/
def parts (path : Text) : List Text := Text.splitAt '/' path

/-- Whether a path begins at the root. -/
def isAbsolute (path : Text) : Bool := path.head? = some '/'

/-- The text after the last slash. -/
def lastPart (path : Text) : Text := (path.reverse.takeWhile (· ≠ '/')).reverse

/-- The directory of a path: the text up to the last slash, without the slashes
at its end unless it consists of slashes only. -/
def directory (path : Text) : Text :=
  let head := path.take (path.length - (lastPart path).length)
  if head.all (· = '/') then head else Text.dropEndWhile (· = '/') head

/-- A path seen from a directory. -/
def join (base path : Text) : Text :=
  if isAbsolute path then path
  else if base.isEmpty || base.getLast? = some '/' then base ++ path
  else base ++ '/' :: path

/-- The parts of an absolute path in normal form: no empty ones and no dots. -/
def normalParts (parts : List Text) : List Text :=
  parts.foldl (fun here part =>
    if part.isEmpty || part = ['.'] then here
    else if part = ['.', '.'] then here.dropLast
    else here ++ [part]) []

/-- The normal form of a path seen from a directory that is given by its
parts.  Two slashes at the front, and no more, stay two. -/
def absolute (workingDirectory : List Text) (path : Text) : Text :=
  let start := if isAbsolute path then [] else workingDirectory
  let root : Text := if path.take 2 = ['/', '/'] ∧ (path.drop 2).head? ≠ some '/' then "//" else "/"
  root ++ Text.joinWith "/" (normalParts (start ++ parts path))

end ClientGen.Path
