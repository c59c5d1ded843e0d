/-
# Running the command

What a command line does: it writes the configuration file, or it generates a
client, with the settings of the command line, the environment and the file put
together.  The file is read and written by any library (`runBy`); `run` takes the
one in use.  The outcome is a value: the exit code or the breakdown that ends the
program, the file tree, and the texts for the user.

An exit code other than zero belongs to a failure, to a fault of the file system
while the configuration is written, or to a command line that cannot be used.
-/
import ClientGen.Command.Usage
import ClientGen.Generation

namespace ClientGen.Command

/-- The outcome of a command line. -/
structure Outcome where
  exit : Except Breakdown Int
  tree : FileTree
  output : Text := []
  errors : Text := []
  sent : List Text := []
  timeouts : List (Option Double) := []

/-- The exit code for a command line that cannot be used. -/
def misuseCode : Int := 2

/-- The exit code for a fault of the file system. -/
def faultCode : Int := 1

/-- The lines of a log, with those for debugging only where they are asked for. -/
def logText (verbose : Bool) (log : List LogEntry) : Text :=
  (log.filter fun e => verbose || e.level = .info).flatMap fun e => "[gen] " ++ e.message ++ "\n"

/-- The line about a failure. -/
def failureLine (f : Failure) : Text := "❌ Ошибка генерации: " ++ f.message ++ "\n"

/-- The line about a fault of the file system. -/
def faultLine (fault : FileFault) : Text := "❌ Ошибка: " ++ fault.message ++ "\n"

/-- The line about a configuration file that was written. -/
def createdLine : Text := "✅ Создан конфиг файл " ++ Config.fileName ++ "\n"

/-- How an error ends the program: with an exit code and a line, or as it is. -/
def ending : GenError → Except Breakdown Int × Text
  | .failure f => (.ok f.exitCode, failureLine f)
  | .breakdown (.file fault) => (.ok faultCode, faultLine fault)
  | .breakdown b => (.error b, [])

section

variable {σ : Type} [Toml.ValueType σ]

/-- The settings of the file with those of the command line in front. -/
def effectiveConfig (library : Toml.Library σ) (tree : FileTree) (arguments : Arguments) :
    Except GenError (Config σ) :=
  (Config.loadBy library tree Config.fileName).map fun config =>
    (config.getD {}).override arguments.overrides

/-- What a generation with the given settings is to do. -/
def settingsOf (config : Config σ) (arguments : Arguments) (environment : Option Text) :
    Settings where
  url := Toml.ValueType.view (config.resolveUrl arguments.overrides.url environment)
  directory := Toml.ValueType.view config.resolveDirectory
  encode := config.encode
  maxRedirects := config.maxRedirects
  timeout := config.timeout

/-- The settings to be written to the configuration file: every one that counts
as none has its standard value. -/
def completed (config : Config σ) (arguments : Arguments) (environment : Option Text) :
    Config σ :=
  { config with
    url := some (config.resolveUrl arguments.overrides.url environment)
    directory := some config.resolveDirectory }

/-- Writes the configuration file. -/
def writeConfig (library : Toml.Library σ) (tree : FileTree) (config : Config σ) : Outcome :=
  match config.saveBy library tree Config.fileName with
  | (tree, none) => { exit := .ok 0, tree := tree, output := createdLine }
  | (tree, some breakdown) =>
    let (exit, line) := ending (.breakdown breakdown)
    { exit := exit, tree := tree, errors := line }

end

/-- Generates a client. -/
def generate (tree : FileTree) (client : HttpClient) (verbose : Bool) (settings : Settings) :
    Outcome :=
  let generation := Generation.run tree client settings
  let (exit, line) : Except Breakdown Int × Text :=
    match generation.result with
    | .ok _ => (.ok 0, [])
    | .error e => ending e
  { exit := exit
    tree := generation.tree
    errors := logText verbose generation.log ++ line
    sent := generation.sent
    timeouts := generation.timeouts }

section

variable {σ : Type} [Toml.ValueType σ]

/-- Does what the arguments say. -/
def perform (library : Toml.Library σ) (tree : FileTree) (client : HttpClient)
    (environment : Option Text) (arguments : Arguments) : Outcome :=
  match effectiveConfig library tree arguments with
  | .error e =>
    let (exit, line) := ending e
    { exit := exit, tree := tree, errors := line }
  | .ok config =>
    if arguments.initConfig then
      writeConfig library tree (completed config arguments environment)
    else generate tree client arguments.verbose (settingsOf config arguments environment)

/-- Runs a command line in a file tree, with the URL that the environment gives and a
library for the configuration file. -/
def runBy (library : Toml.Library σ) (tree : FileTree) (client : HttpClient)
    (environment : Option Text) (arguments : List Text) : Outcome :=
  match parse arguments with
  | .error .help => { exit := .ok 0, tree := tree, output := help }
  | .error (.misuse misuse) =>
    { exit := .ok misuseCode, tree := tree, errors := misuseLine misuse }
  | .ok arguments => perform library tree client environment arguments

end

/-- Runs a command line in a file tree, with the URL that the environment gives. -/
def run (tree : FileTree) (client : HttpClient) (environment : Option Text)
    (arguments : List Text) : Outcome :=
  runBy Toml.ownLibrary tree client environment arguments

end ClientGen.Command
