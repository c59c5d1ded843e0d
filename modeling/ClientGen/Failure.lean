/-
# Failures and log entries

A failure is an error that the generator foresees; it has an exit code of its
own.  Any other error is a breakdown: something that was used as what it is not,
a number out of range, octets that are no text, or a fault of the file system
outside of reading and writing the documents themselves.

What an operation has to say about its course is a value beside its result: the
outer layer decides whether an entry of the given level is shown.
-/
import ClientGen.Files.Fault
import ClientGen.Text.Utf8
import ClientGen.Value.Basic

namespace ClientGen

/-- A failure of the generation. -/
inductive Failure
  | general (message : Text) (exitCode : Option Int)
  | config (message : Text)
  | fetch (message : Text) (url : Option Text)
  | tooManyRedirects (url : Text) (limit : Int)
  | httpStatus (status : Int) (url : Text)
  | parse (message : Text)
  | write (message : Text) (path : Option Text)
  deriving DecidableEq, Repr

namespace Failure

/-- The wording of a failure. -/
def message : Failure → Text
  | .general message _ | .config message | .fetch message _ | .parse message
  | .write message _ => message
  | .tooManyRedirects url limit =>
    "Превышено число редиректов (" ++ Text.ofInt limit ++ ") при загрузке " ++ url
  | .httpStatus status url =>
    "Не удалось загрузить спецификацию: HTTP " ++ Text.ofInt status ++ " (" ++ url ++ ")"

/-- The exit code of a failure. -/
def exitCode : Failure → Int
  | .general _ code => code.getD 1
  | .config _ => 2
  | .httpStatus .. => 5
  | .fetch .. | .tooManyRedirects .. => 6
  | .parse _ => 7
  | .write .. => 8

/-- Whether the document could not be fetched. -/
def isFetchFailure : Failure → Bool
  | .fetch .. | .tooManyRedirects .. => true
  | _ => false

/-- A configuration file that could not be read. -/
def unreadableConfig (path detail : Text) : Failure :=
  .config ("Не удалось прочитать " ++ path ++ ": " ++ detail)

/-- A configuration file with a value of no use. -/
def badConfigValue (path detail : Text) : Failure :=
  .config ("Некорректное значение в " ++ path ++ ": " ++ detail)

/-- A document that could not be fetched from a URL. -/
def unreachable (url detail : Text) : Failure :=
  .fetch ("Не удалось загрузить " ++ url ++ ": " ++ detail) (some url)

/-- A document file that could not be read. -/
def unreadableFile (path : Text) (fault : FileFault) : Failure :=
  .fetch ("Не удалось прочитать " ++ path ++ ": " ++ fault.message) (some path)

/-- A document that is no JSON text. -/
def malformed (source : Text) (detail : Text) : Failure :=
  let place : Text := if source.isEmpty then "ответе" else source
  .parse ("Некорректный JSON в " ++ place ++ ": " ++ detail)

/-- A document that is no JSON object. -/
def notAnObject (v : Value) : Failure :=
  .parse ("Спецификация должна быть JSON-объектом, получено " ++ v.typeName)

/-- A directory that could not be made. -/
def noDirectory (path : Text) (fault : FileFault) : Failure :=
  .write ("Не удалось создать " ++ path ++ ": " ++ fault.message) (some path)

/-- A file that could not be written. -/
def unwritable (path : Text) (fault : FileFault) : Failure :=
  .write ("Не удалось записать " ++ path ++ ": " ++ fault.message) (some path)

end Failure

/-- An error that the generator does not foresee. -/
inductive Breakdown
  /-- A value of some type was asked for a member that the type does not have. -/
  | noMember (typeName member : Text)
  /-- A value of some type was used as a path. -/
  | notAPath (typeName : Text)
  /-- A number does not fit the type it was to have. -/
  | outOfRange (message : Text)
  /-- Octets are no text. -/
  | undecodable (flaw : Utf8.Flaw)
  /-- A value of the right type is of no use. -/
  | badValue (message : Text)
  /-- There is nothing under a key. -/
  | noKey (key : Text)
  /-- A fault of the file system. -/
  | file (fault : FileFault)
  /-- A text has no form in a configuration file. -/
  | noWrittenForm
  /-- The HTTP client stopped with an error of its own. -/
  | client (name message : Text)
  deriving DecidableEq, Repr

/-- The wording of a breakdown. -/
def Breakdown.message : Breakdown → Text
  | .noMember typeName member =>
    "'" ++ typeName ++ "' object has no attribute '" ++ member ++ "'"
  | .notAPath typeName => "expected str, bytes or os.PathLike object, not " ++ typeName
  | .outOfRange message | .badValue message | .client _ message => message
  | .undecodable flaw => flaw.message
  | .noKey key => Literal.encode key
  | .file fault => fault.message
  | .noWrittenForm => "list index out of range"

/-- A path has a null character. -/
def Breakdown.nullCharacter : Breakdown := .badValue "embedded null byte"

/-- An error of either kind. -/
inductive GenError
  | failure (failure : Failure)
  | breakdown (breakdown : Breakdown)
  deriving DecidableEq, Repr

/-- The wording of an error. -/
def GenError.message : GenError → Text
  | .failure f => f.message
  | .breakdown b => b.message

/-! ## Log entries -/

/-- How much an entry matters. -/
inductive LogLevel
  | debug
  | info
  deriving DecidableEq, Repr

/-- An entry of the log. -/
structure LogEntry where
  level : LogLevel
  message : Text
  deriving DecidableEq, Repr

/-- A debugging entry. -/
def LogEntry.debug (message : Text) : LogEntry := ⟨.debug, message⟩

/-- An entry for the user. -/
def LogEntry.info (message : Text) : LogEntry := ⟨.info, message⟩

end ClientGen
