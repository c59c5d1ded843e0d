/-
# File system faults

The ways in which an operation on a file can fail, with their POSIX numbers and
wordings.
-/
import ClientGen.Source.Literal

namespace ClientGen

/-- Why an operation on a file failed. -/
inductive FileFaultKind
  | noEntry
  | denied
  | exists
  | notDirectory
  | isDirectory
  | nameTooLong
  | linkLoop
  deriving DecidableEq, Repr

/-- A failed operation, with the path as it was given. -/
structure FileFault where
  kind : FileFaultKind
  path : Text
  deriving DecidableEq, Repr

namespace FileFaultKind

/-- The POSIX number of the fault. -/
def number : FileFaultKind → Nat
  | .noEntry => 2
  | .denied => 13
  | .exists => 17
  | .notDirectory => 20
  | .isDirectory => 21
  | .nameTooLong => 36
  | .linkLoop => 40

/-- The POSIX wording of the fault. -/
def wording : FileFaultKind → Text
  | .noEntry => "No such file or directory"
  | .denied => "Permission denied"
  | .exists => "File exists"
  | .notDirectory => "Not a directory"
  | .isDirectory => "Is a directory"
  | .nameTooLong => "File name too long"
  | .linkLoop => "Too many levels of symbolic links"

end FileFaultKind

/-- The wording of a failed operation. -/
def FileFault.message (fault : FileFault) : Text :=
  "[Errno " ++ Text.ofNat fault.kind.number ++ "] " ++ fault.kind.wording ++ ": " ++
    Literal.encode fault.path

end ClientGen
