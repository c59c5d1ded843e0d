/-
# Code

The building blocks of a generated source file: type expressions, parameters,
blocks of code, functions, classes and files, each with its text.  Blocks are
written with tabs for indentation; the text has four blanks for each.

A file holds its classes under keys, at most one under each: a class added under
a key already there takes the place of the former.  The same holds for the
functions of a class.
-/
import ClientGen.Source.Docstring
import ClientGen.Ordered

namespace ClientGen.Code

/-- One level of indentation. -/
def margin : Text := "    "

/-- The greatest length of a signature on one line. -/
def maxLineLength : Nat := 88

/-- Puts every line that is not blank one level further in. -/
def indent (t : Text) : Text := Text.indentBy margin t

/-- A type expression: a name, or a group of expressions, possibly as the
arguments of a named constructor. -/
inductive TypeExpr
  | name (text : Text)
  | group (items : List TypeExpr) (wrapper : Option Text)
  deriving Repr

/-- The text of the items of a group, applied to its constructor. -/
def wrapItems (inner : Text) : Option Text → Text
  | none => inner
  | some wrapper => if inner.isEmpty then wrapper else wrapper ++ "[" ++ inner ++ "]"

mutual

/-- The text of a type expression. -/
def TypeExpr.text : TypeExpr → Text
  | .name t => t
  | .group items wrapper => wrapItems (Text.joinWith ", " (TypeExpr.texts items)) wrapper

/-- The texts of several type expressions. -/
def TypeExpr.texts : List TypeExpr → List Text
  | [] => []
  | item :: rest => item.text :: TypeExpr.texts rest

end

/-- A parameter of a function. -/
structure Parameter where
  name : Text
  default : Option Text := none
  type : Option TypeExpr := none
  deriving Repr

/-- The text of a parameter: the equals sign of a default has blanks around it
only after a type. -/
def Parameter.text (p : Parameter) : Text :=
  match p.type, p.default with
  | none, none => p.name
  | none, some value => p.name ++ "=" ++ value
  | some type, none => p.name ++ ": " ++ type.text
  | some type, some value => p.name ++ ": " ++ type.text ++ " = " ++ value

/-- The code that does nothing. -/
def idleCode : Text := "pass"

/-- A block of code with its place in the file. -/
structure Block where
  order : Int := 0
  code : Text := idleCode
  deriving Repr

/-- The text of a block, with a level of indentation for each tab. -/
def Block.text (b : Block) : Text :=
  b.code.flatMap fun c => if c = '\t' then margin else [c]

/-- A function. -/
structure Function where
  name : Text
  parameters : List Parameter := []
  response : Option Text := none
  isAsync : Bool := false
  description : Option Text := none
  code : Block := {}
  deriving Repr

/-- A text, unless there is none or it is empty. -/
def nonEmpty? (t : Option Text) : Option Text := t.filter (! ·.isEmpty)

namespace Function

/-- The parameters in the order of the signature: those without a default
first, each part in the given order. -/
def signatureParameters (f : Function) : List Parameter :=
  f.parameters.filter (·.default.isNone) ++ f.parameters.filter (·.default.isSome)

/-- The signature up to its opening parenthesis. -/
def opening (f : Function) : Text :=
  (if f.isAsync then "async def " else "def ") ++ f.name ++ "("

/-- The signature from its closing parenthesis on. -/
def closing (f : Function) : Text :=
  match nonEmpty? f.response with
  | none => "):"
  | some type => ") -> " ++ type ++ ":"

/-- The signature on one line. -/
def oneLine (f : Function) : Text :=
  f.opening ++ Text.joinWith ", " (f.signatureParameters.map Parameter.text) ++ f.closing

/-- The signature with each parameter on a line of its own. -/
def perLine (f : Function) : Text :=
  f.opening ++ "\n" ++
    (f.signatureParameters.map fun p => indent (p.text ++ ",\n")).flatten ++ f.closing

/-- The signature: on one line if that is short enough, or if there are fewer
than two parameters. -/
def signature (f : Function) : Text :=
  if f.oneLine.length ≤ maxLineLength ∨ f.parameters.length < 2 then f.oneLine else f.perLine

/-- The body: the documentation, if there is any, and the code. -/
def body (f : Function) : Text :=
  match nonEmpty? f.description with
  | none => f.code.text
  | some description => Docstring.literal description ++ "\n" ++ f.code.text

/-- The text of a function. -/
def text (f : Function) : Text := f.signature ++ "\n" ++ indent f.body

end Function

/-- A class, with its functions by key. -/
structure Class where
  name : Text
  functions : List (Text × Function) := []
  order : Int := 0
  deriving Repr

namespace Class

/-- The text of a class. -/
def text (c : Class) : Text :=
  let members := Text.joinWith "\n\n" (c.functions.map fun (_, f) => f.text)
  "class " ++ c.name ++ ":\n" ++ indent (if members.isEmpty then idleCode else members)

/-- Adds a function in the place of the former of its name. -/
def addFunction (f : Function) (c : Class) : Class :=
  { c with functions := Ordered.put f.name f c.functions }

end Class

/-- A source file, with its classes by key. -/
structure File where
  name : Text
  header : List Text := []
  imports : List Text := []
  classes : List (Text × Class) := []
  blocks : List Block := []
  deriving Repr

/-- A member of a file: its place and its text. -/
structure Member where
  order : Int
  text : Text
  deriving DecidableEq, Repr

namespace Member

/-- Puts a member before the first one whose order is not smaller. -/
def insert (m : Member) : List Member → List Member
  | [] => [m]
  | n :: rest => if m.order ≤ n.order then m :: n :: rest else n :: insert m rest

/-- The members by order, equal orders in the given sequence. -/
def sort : List Member → List Member
  | [] => []
  | m :: rest => insert m (sort rest)

end Member

namespace File

/-- The members of a file in the order of its text: blocks before classes where
the orders are equal. -/
def members (f : File) : List Member :=
  Member.sort ((f.blocks.map fun b => ⟨b.order, b.text⟩) ++
    f.classes.map fun (_, c) => ⟨c.order, c.text⟩)

/-- The header and the imports, each only where there are lines of it. -/
def top (f : File) : Text :=
  Text.joinWith "\n\n"
    (([f.header, f.imports].filter (! ·.isEmpty)).map (Text.joinWith "\n"))

/-- The text of a file: the top, then each member after two empty lines. -/
def text (f : File) : Text :=
  let bodies := f.members.map fun m => Text.trim (· = '\n') m.text
  (if bodies.isEmpty then f.top
   else if f.top.isEmpty then Text.joinWith "\n\n\n" bodies
   else f.top ++ "\n\n\n" ++ Text.joinWith "\n\n\n" bodies) ++ "\n"

/-- Adds a class in the place of the former of its name. -/
def addClass (c : Class) (f : File) : File :=
  { f with classes := Ordered.put c.name c f.classes }

/-- Adds a block of code. -/
def addBlock (b : Block) (f : File) : File := { f with blocks := f.blocks ++ [b] }

/-- The class under a key. -/
def class? (key : Text) (f : File) : Option Class := Ordered.get? key f.classes

/-- Adds a function to the class under a key, if there is such a class. -/
def addFunction? (key : Text) (function : Function) (f : File) : Option File :=
  (f.class? key).map fun c =>
    { f with classes := Ordered.put key (c.addFunction function) f.classes }

end File

/-- A project: its files in the order they were added, several possibly of one
name. -/
structure Project where
  name : Text
  files : List File := []
  deriving Repr

namespace Project

/-- Adds a file. -/
def addFile (f : File) (p : Project) : Project := { p with files := p.files ++ [f] }

/-- The first file of a name. -/
def file? (name : Text) (p : Project) : Option File := p.files.find? (·.name = name)

/-- The names of the files. -/
def fileNames (p : Project) : List Text := p.files.map (·.name)

/-- Changes the first of the files that has a given name. -/
def changeFirst (name : Text) (change : File → File) : List File → List File
  | [] => []
  | f :: rest => if f.name = name then change f :: rest else f :: changeFirst name change rest

/-- Changes the first file of a name. -/
def changeFile (name : Text) (change : File → File) (p : Project) : Project :=
  { p with files := changeFirst name change p.files }

end Project

end ClientGen.Code
