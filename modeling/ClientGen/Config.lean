/-
# Configuration

The settings as a configuration file holds them, and how they are found: each
comes from the command line, else, for the URL, from the environment, else from
the file, else it has a standard value.  An empty text counts as none; a number
counts wherever it is given.

A file may hold values of any type.  The URL and the directory are kept as they
are; the flag is the truth of its value; the two numbers are converted, and a
value that denotes no number makes the file one of no use.

Files are read and written by a library for configuration texts.  Everything here
is said for any library and its type of values (`loadBy`, `saveBy`); `load` and
`save` take the library in use.
-/
import ClientGen.Fetch
import ClientGen.Toml.Library

namespace ClientGen

/-- The settings of a configuration file, with a URL and a directory of any kind. -/
structure Config (σ : Type := Value) where
  url : Option σ := none
  directory : Option σ := none
  encode : Bool := false
  maxRedirects : Int := Fetch.defaultLimit
  timeout : Option Double := none
  deriving DecidableEq, Repr

/-- The settings that the command line gives. -/
structure Overrides where
  url : Option Text := none
  directory : Option Text := none
  encode : Bool := false
  maxRedirects : Option Int := none
  timeout : Option Double := none
  deriving DecidableEq, Repr

namespace Config

/-- The name of the configuration file. -/
def fileName : Text := "openapi.toml"

/-- The URL where none is given. -/
def standardUrl : Text := "http://localhost:8000/openapi.json"

/-- The directory where none is given. -/
def standardDirectory : Text := "api_client"

/-- The names of the settings in a file. -/
def urlKey : Text := "url"

@[inherit_doc urlKey]
def directoryKey : Text := "dirname"

@[inherit_doc urlKey]
def encodeKey : Text := "encode_path_params"

@[inherit_doc urlKey]
def maxRedirectsKey : Text := "max_redirects"

@[inherit_doc urlKey]
def timeoutKey : Text := "timeout"

/-! ## Conversion -/

/-- Why a value cannot be converted to a number. -/
inductive Flaw
  | useless (message : Text)
  | outOfRange (message : Text)
  deriving DecidableEq, Repr

/-- The greatest length of a text that is quoted for being no integer. -/
def maxQuoteLength : Nat := 200

/-- The number of digits in a text. -/
def digitCount (t : Text) : Nat := t.countP fun c => (Text.decimalValue? c).isSome

/-- A text as an integer. -/
def integerOfText (t : Text) : Except Flaw Int :=
  match Numeral.integer? t with
  | none =>
    .error (.useless ("invalid literal for int() with base 10: " ++
      (Literal.encode t).take maxQuoteLength))
  | some n =>
    if digitCount t > Numeral.maxDigits then
      .error (.useless (Numeral.tooManyDigits (digitCount t)))
    else .ok n

/-- A value as an integer; the places of a fraction are cut off. -/
def integer : Setting → Except Flaw Int
  | .plain (.bool b) => .ok (if b then 1 else 0)
  | .plain (.int n) => .ok n
  | .plain (.float .nan) => .error (.useless "cannot convert float NaN to integer")
  | .plain (.float (.infinity _)) =>
    .error (.outOfRange "cannot convert float infinity to integer")
  | .plain (.float x) => .ok (x.truncate?.getD 0)
  | .plain (.str t) => integerOfText t
  | setting =>
    .error (.useless
      ("int() argument must be a string, a bytes-like object or a real number, not '" ++
        setting.typeName ++ "'"))

/-- A value as a floating point number. -/
def double : Setting → Except Flaw Double
  | .plain (.bool b) => .ok ((Double.ofInt? (if b then 1 else 0)).getD .nan)
  | .plain (.int n) =>
    match Double.ofInt? n with
    | some x => .ok x
    | none => .error (.outOfRange "int too large to convert to float")
  | .plain (.float x) => .ok x
  | .plain (.str t) =>
    match Numeral.double? t with
    | some x => .ok x
    | none => .error (.useless ("could not convert string to float: " ++ Literal.encode t))
  | setting =>
    .error (.useless
      ("float() argument must be a string or a real number, not '" ++ setting.typeName ++ "'"))

/-! ## Reading -/

section

variable {σ : Type} [Toml.ValueType σ]

open Toml.ValueType

/-- The limit that a table gives. -/
def limitOf (table : List (Text × σ)) : Except Flaw Int :=
  match Ordered.get? maxRedirectsKey table with
  | some value => integer (view value)
  | none => .ok Fetch.defaultLimit

/-- The time that a table gives. -/
def timeOf (table : List (Text × σ)) : Except Flaw (Option Double) :=
  match Ordered.get? timeoutKey table with
  | some value => (double (view value)).map some
  | none => .ok none

/-- The settings of a table whose numbers are converted. -/
def ofNumbers (table : List (Text × σ)) (limit : Int) (time : Option Double) : Config σ where
  url := Ordered.get? urlKey table
  directory := some ((Ordered.get? directoryKey table).getD (ofValue (.str standardDirectory)))
  encode := (view ((Ordered.get? encodeKey table).getD (ofValue (.bool false)))).isTruthy
  maxRedirects := limit
  timeout := time

/-- The settings of a table. -/
def ofTable (table : List (Text × σ)) : Except Flaw (Config σ) := do
  let limit ← limitOf table
  let time ← timeOf table
  .ok (ofNumbers table limit time)

/-- What comes of the settings of a table of the file at a path. -/
def conclude (path : Text) : Except Flaw (Config σ) → Except GenError (Option (Config σ))
  | .ok config => .ok (some config)
  | .error (.useless message) => .error (.failure (.badConfigValue path message))
  | .error (.outOfRange message) => .error (.breakdown (.outOfRange message))

/-- The settings of the file at a path, as a library reads it; there are none where there
is no file. -/
def loadBy (library : Toml.Library σ) (tree : FileTree) (path : Text) :
    Except GenError (Option (Config σ)) :=
  if ! tree.has path then .ok none
  else match tree.read path with
    | .error (.fault fault) => .error (.failure (.unreadableConfig path fault.message))
    | .error .nullCharacter => .error (.breakdown .nullCharacter)
    | .ok octets =>
      match Utf8.decode octets with
      | .error flaw => .error (.breakdown (.undecodable flaw))
      | .ok text =>
        match library.read (Text.unifyNewlines text) with
        | .error detail => .error (.failure (.unreadableConfig path detail))
        | .ok table => conclude path (ofTable table)

end

/-- The settings of the file at a path. -/
def load (tree : FileTree) (path : Text) : Except GenError (Option Config) :=
  loadBy Toml.ownLibrary tree path

/-- The path of the configuration file: the one in the directory that is searched
counts where it exists. -/
def findPath (tree : FileTree) (path : Text) (directory : Option Text) : Text :=
  match directory with
  | none => path
  | some directory =>
    let inDirectory := Path.join directory fileName
    if ! directory.isEmpty && tree.hasDirectory directory && tree.has inDirectory then inDirectory
    else path

/-! ## Writing -/

section

variable {σ : Type} [Toml.ValueType σ]

open Toml.ValueType

/-- The table of the settings; one that is not set has no field. -/
def toTable (config : Config σ) : List (Text × σ) :=
  (config.url.map fun url => (urlKey, url)).toList ++
    (config.directory.map fun directory => (directoryKey, directory)).toList ++
    [(encodeKey, ofValue (.bool config.encode)),
      (maxRedirectsKey, ofValue (.int config.maxRedirects))] ++
    (config.timeout.map fun timeout => (timeoutKey, ofValue (.float timeout))).toList

/-- Writes the settings to a file, as a library does.  A file for settings that cannot be
written is left empty. -/
def saveBy (library : Toml.Library σ) (tree : FileTree) (path : Text) (config : Config σ) :
    FileTree × Option Breakdown :=
  let text? := library.write? config.toTable
  match tree.write path (Utf8.encode (text?.getD [])) with
  | .error (.fault fault) => (tree, some (.file fault))
  | .error .nullCharacter => (tree, some .nullCharacter)
  | .ok written => (written, if text?.isNone then some .noWrittenForm else none)

end

/-- Writes the settings to a file. -/
def save (tree : FileTree) (path : Text) (config : Config) : FileTree × Option Breakdown :=
  saveBy Toml.ownLibrary tree path config

/-! ## Precedence -/

section

variable {σ : Type} [Toml.ValueType σ]

open Toml.ValueType

/-- A text of the command line in front of a setting of the file. -/
def prefer (given : Option Text) (kept : Option σ) : Option σ :=
  match given with
  | some (c :: rest) => some (ofValue (.str (c :: rest)))
  | _ => kept

/-- The settings with those of the command line in front. -/
def override (config : Config σ) (given : Overrides) : Config σ where
  url := prefer given.url config.url
  directory := prefer given.directory config.directory
  encode := given.encode || config.encode
  maxRedirects := given.maxRedirects.getD config.maxRedirects
  timeout := given.timeout.orElse fun _ => config.timeout

/-- A setting, or a standard value where it counts as none. -/
def orStandard (standard : Text) (setting : Option σ) : σ :=
  match setting with
  | some value => if (view value).isTruthy then value else ofValue (.str standard)
  | none => ofValue (.str standard)

/-- The URL of the document: that of the command line, of the environment, of the
settings, or the standard one. -/
def resolveUrl (config : Config σ) (given environment : Option Text) : σ :=
  orStandard standardUrl (prefer given (prefer environment config.url))

/-- The directory of the client: that of the settings or the standard one. -/
def resolveDirectory (config : Config σ) : σ := orStandard standardDirectory config.directory

end

end Config

end ClientGen
