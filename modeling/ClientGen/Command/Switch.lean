/-
# Switches

The switches of the command line: their names, and whether a value follows.  A
switch may be named by any beginning of its long name that no other one has.
-/
import ClientGen.Text.Basic

namespace ClientGen.Command

/-- A switch. -/
inductive Switch
  | help
  | directory
  | encode
  | maxRedirects
  | timeout
  | initConfig
  | verbose
  deriving DecidableEq, Repr

namespace Switch

/-- All switches. -/
def all : List Switch :=
  [.help, .directory, .encode, .maxRedirects, .timeout, .initConfig, .verbose]

/-- The letter that names a switch after a single dash. -/
def letter? : Switch → Option Char
  | .help => some 'h'
  | .verbose => some 'v'
  | _ => none

/-- The name of a switch, with its two dashes. -/
def longName : Switch → Text
  | .help => "--help"
  | .directory => "--dirname"
  | .encode => "--encode-path-params"
  | .maxRedirects => "--max-redirects"
  | .timeout => "--timeout"
  | .initConfig => "--init-config"
  | .verbose => "--verbose"

/-- Whether a value belongs to a switch. -/
def takesValue : Switch → Bool
  | .directory | .maxRedirects | .timeout => true
  | _ => false

/-- The names of a switch. -/
def names (s : Switch) : List Text :=
  match s.letter? with
  | some c => [['-', c], s.longName]
  | none => [s.longName]

/-- A switch as messages name it. -/
def label (s : Switch) : Text := Text.joinWith "/" s.names

/-- The switch that a letter names. -/
def ofLetter? (c : Char) : Option Switch := all.find? (·.letter? = some c)

/-- The switch of a name. -/
def named? (name : Text) : Option Switch := all.find? (·.names.contains name)

/-- The switches whose long name begins in a given way. -/
def startingWith (start : Text) : List Switch := all.filter (start.isPrefixOf ·.longName)

end Switch

end ClientGen.Command
