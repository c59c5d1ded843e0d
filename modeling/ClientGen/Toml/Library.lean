/-
# Libraries for configuration texts

A configuration text is read and written by a library.  What it takes for values
is its own affair, and dates and times may be among them.  Of a value only what
is seen of it counts (`Setting`): it is a document value, or something else that
has the name of a type, a text, and is true or not.

The library in use reads and writes the texts of this project.  Its values are
document values, so nothing of them is hidden.
-/
import ClientGen.Toml.Reader
import ClientGen.Toml.Writer

namespace ClientGen

/-- What is seen of a value in a table: the value itself where it is a document
value, and else the name of its type, its text and whether it is true. -/
inductive Setting
  | plain (value : Value)
  | other (typeName text : Text) (isTruthy : Bool)
  deriving DecidableEq, Repr

namespace Setting

/-- The name of the type of the value. -/
def typeName : Setting → Text
  | .plain v => v.typeName
  | .other typeName _ _ => typeName

/-- The value as text. -/
def toText : Setting → Text
  | .plain v => v.toText
  | .other _ text _ => text

/-- Whether the value counts as true. -/
def isTruthy : Setting → Bool
  | .plain v => v.isTruthy
  | .other _ _ isTruthy => isTruthy

end Setting

namespace Toml

/-- A type of values for tables.  Document values are among them, and are seen as
they are. -/
class ValueType (σ : Type) where
  /-- A document value as a value of the type. -/
  ofValue : Value → σ
  /-- What is seen of a value. -/
  view : σ → Setting
  view_ofValue (v : Value) : view (ofValue v) = .plain v

attribute [simp] ValueType.view_ofValue

/-- Document values are seen as they are. -/
instance : ValueType Value where
  ofValue := id
  view := .plain
  view_ofValue _ := rfl

/-- A value may be no more than what is seen of it. -/
instance : ValueType Setting where
  ofValue := .plain
  view := id
  view_ofValue _ := rfl

/-- A library for tables of values of a type.  It makes a table of a text or says
why the text is none, and makes a text of a table if it can. -/
structure Library (σ : Type) where
  read : Text → Except Text (List (Text × σ))
  write? : List (Text × σ) → Option Text

/-- What stands for the fault of a text that is no configuration text. -/
def syntaxNote : Text := "<toml>"

/-- The library in use. -/
def ownLibrary : Library Value where
  read text :=
    match Toml.read text with
    | some table => .ok table
    | none => .error syntaxNote
  write? := Toml.write?

end Toml

end ClientGen
