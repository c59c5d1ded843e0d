/-
# Arguments

Reading the arguments of the command line.  Each argument is first looked at
alone: it is a word, a switch, or a switch that is not known; after two dashes
every argument is a word.  Then they are taken in order.  The first word is the
URL; a switch with a value takes the word after it.  Whatever is left over makes
the whole command line one of no use, but only once all else has been taken, so
that a request for help is still answered.
-/
import ClientGen.Command.Switch
import ClientGen.Config
import ClientGen.Number.Numeral

namespace ClientGen.Command

/-- Why a command line cannot be used. -/
inductive Misuse
  | ambiguous (argument : Text) (candidates : List Text)
  | missingValue (switch : Switch)
  | unexpectedValue (switch : Switch) (value : Text)
  | noInteger (switch : Switch) (value : Text)
  | noNumber (switch : Switch) (value : Text)
  | unrecognized (arguments : List Text)
  deriving DecidableEq, Repr

/-- The wording of a misuse. -/
def Misuse.message : Misuse → Text
  | .ambiguous argument candidates =>
    "ambiguous option: " ++ argument ++ " could match " ++ Text.joinWith ", " candidates
  | .missingValue s => "argument " ++ s.label ++ ": expected one argument"
  | .unexpectedValue s value =>
    "argument " ++ s.label ++ ": ignored explicit argument " ++ Literal.encode value
  | .noInteger s value =>
    "argument " ++ s.label ++ ": invalid int value: " ++ Literal.encode value
  | .noNumber s value =>
    "argument " ++ s.label ++ ": invalid float value: " ++ Literal.encode value
  | .unrecognized arguments => "unrecognized arguments: " ++ Text.joinWith " " arguments

/-! ## Single arguments -/

/-- An argument looked at alone. -/
inductive Token
  /-- The two dashes that only words follow. -/
  | separator
  | word (text : Text)
  /-- A switch, with the value that an equals sign gives it. -/
  | switch (switch : Switch) (value : Option Text)
  /-- Letters after a single dash, of which the first names a switch; `text` is
  the rest. -/
  | letters (switch : Switch) (text : Text)
  /-- A letter after a single dash with the value that an equals sign gives it. -/
  | letterValue (switch : Switch) (value : Text)
  | unknown (text : Text)
  deriving DecidableEq, Repr

/-- Whether a text is a decimal number after a minus sign. -/
def isNegativeNumber (t : Text) : Bool :=
  let isDecimal (c : Char) : Bool := (Text.decimalValue? c).isSome
  let isRun (digits : Text) : Bool := ! digits.isEmpty && digits.all isDecimal
  match t with
  | '-' :: rest =>
    let rest := if rest.getLast? = some '\n' then rest.dropLast else rest
    match Text.cutAt '.' rest with
    | (whole, none) => isRun whole
    | (whole, some places) => whole.all isDecimal && isRun places
  | _ => false

/-- An argument with a dash in front that names no switch. -/
def unnamed (t : Text) : Token :=
  if isNegativeNumber t || t.elem ' ' then .word t else .unknown t

/-- An argument with two dashes in front that is not itself the name of a switch. -/
def abbreviated (t : Text) : Except Misuse Token :=
  let (start, value) := Text.cutAt '=' t
  match (Switch.named? start).filter fun _ => value.isSome with
  | some s => .ok (.switch s value)
  | none =>
    match Switch.startingWith start with
    | [] => .ok (unnamed t)
    | [s] => .ok (.switch s value)
    | candidates => .error (.ambiguous t (candidates.map Switch.longName))

/-- An argument other than the separator. -/
def token (t : Text) : Except Misuse Token :=
  match Switch.named? t with
  | some s => .ok (.switch s none)
  | none =>
    match t with
    | '-' :: '-' :: _ => abbreviated t
    | '-' :: c :: rest =>
      match Switch.ofLetter? c, rest with
      | some s, '=' :: value => .ok (.letterValue s value)
      | some s, rest => .ok (.letters s rest)
      | none, _ => .ok (unnamed t)
    | _ => .ok (.word t)

/-- The arguments looked at one by one. -/
def tokens : List Text → Except Misuse (List Token)
  | [] => .ok []
  | t :: rest =>
    if t = ['-', '-'] then .ok (.separator :: rest.map .word)
    else do
      let first ← token t
      let more ← tokens rest
      .ok (first :: more)

/-! ## All arguments -/

/-- What the arguments say. -/
structure Arguments where
  overrides : Overrides := {}
  initConfig : Bool := false
  verbose : Bool := false
  deriving DecidableEq, Repr

/-- The state of taking arguments: what they say so far, whether the URL is still
to come, and what is left over. -/
structure Taken where
  arguments : Arguments := {}
  isUrlOpen : Bool := true
  leftOver : List Text := []

/-- Why taking arguments stops. -/
inductive Halt
  | help
  | misuse (misuse : Misuse)
  deriving DecidableEq, Repr

namespace Taken

/-- Changes what is to be in front of the settings of the configuration file. -/
def change (taken : Taken) (f : Overrides → Overrides) : Taken :=
  { taken with
    arguments := { taken.arguments with overrides := f taken.arguments.overrides } }

/-- Takes a word. -/
def takeWord (taken : Taken) (t : Text) : Taken :=
  if taken.isUrlOpen then
    { taken.change (fun o => { o with url := some t }) with isUrlOpen := false }
  else { taken with leftOver := taken.leftOver ++ [t] }

/-- Takes a switch without a value. -/
def takeSwitch (taken : Taken) : Switch → Except Halt Taken
  | .help => .error .help
  | .encode => .ok (taken.change fun o => { o with encode := true })
  | .initConfig => .ok { taken with arguments := { taken.arguments with initConfig := true } }
  | .verbose => .ok { taken with arguments := { taken.arguments with verbose := true } }
  | _ => .ok taken

/-- Takes a switch with its value. -/
def takeValue (taken : Taken) (s : Switch) (value : Text) : Except Halt Taken :=
  match s with
  | .maxRedirects =>
    match Config.integerOfText value with
    | .ok n => .ok (taken.change fun o => { o with maxRedirects := some n })
    | .error _ => .error (.misuse (.noInteger s value))
  | .timeout =>
    match Numeral.double? value with
    | some x => .ok (taken.change fun o => { o with timeout := some x })
    | none => .error (.misuse (.noNumber s value))
  | _ => .ok (taken.change fun o => { o with directory := some value })

end Taken

/-- The switches that letters after a single dash name, and what is left over of
them. -/
def cluster (s : Switch) : Text → Except Misuse (List Switch × List Text)
  | [] => .error (.unexpectedValue s [])
  | '-' :: rest => .error (.unexpectedValue s ('-' :: rest))
  | c :: rest =>
    match Switch.ofLetter? c with
    | none => .ok ([s], ['-' :: c :: rest])
    | some next =>
      match rest with
      | [] => .ok ([s, next], [])
      | '=' :: value => .error (.unexpectedValue next value)
      | rest => (cluster next rest).map fun (more, left) => (s :: more, left)

/-- Takes tokens in order. -/
def take (taken : Taken) : List Token → Except Halt Taken
  | [] => .ok taken
  | .separator :: rest =>
    if taken.isUrlOpen then take taken rest
    else take { taken with leftOver := taken.leftOver ++ [['-', '-']] } rest
  | .word t :: .separator :: rest =>
    if taken.isUrlOpen then take (taken.takeWord t) rest
    else take { taken.takeWord t with leftOver := taken.leftOver ++ [t, ['-', '-']] } rest
  | .word t :: rest => take (taken.takeWord t) rest
  | .unknown t :: rest => take { taken with leftOver := taken.leftOver ++ [t] } rest
  | .letterValue s value :: _ => .error (.misuse (.unexpectedValue s value))
  | .letters s text :: rest =>
    match cluster s text with
    | .error misuse => .error (.misuse misuse)
    | .ok (switches, left) => do
      let taken ← switches.foldlM Taken.takeSwitch { taken with leftOver := taken.leftOver ++ left }
      take taken rest
  | .switch s (some value) :: rest =>
    if s.takesValue then do
      let taken ← taken.takeValue s value
      take taken rest
    else .error (.misuse (.unexpectedValue s value))
  | .switch s none :: rest =>
    if s.takesValue then
      match rest with
      | .word value :: rest => do
        let taken ← taken.takeValue s value
        take taken rest
      | _ => .error (.misuse (.missingValue s))
    else do
      let taken ← taken.takeSwitch s
      take taken rest

/-- What a command line says. -/
def parse (arguments : List Text) : Except Halt Arguments :=
  match tokens arguments with
  | .error misuse => .error (.misuse misuse)
  | .ok tokens => do
    let taken ← take {} tokens
    if taken.leftOver.isEmpty then .ok taken.arguments
    else .error (.misuse (.unrecognized taken.leftOver))

end ClientGen.Command
