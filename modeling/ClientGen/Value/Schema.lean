/-
# Checking values against a shape

Reading a record from a document value checks every field and collects what is
wrong in the order of the fields, each issue with the way to the offending
value.  A reading succeeds only without issues.

Conversions are lenient where a value says the same thing in another form: an
integer may come as a whole floating point number or as a numeral, a truth value
as one of the usual words.
-/
import ClientGen.Value.Basic
import ClientGen.Number.Numeral

namespace ClientGen

/-- A step on the way to a value: a field, or an item of a list. -/
inductive Step
  | field (name : Text)
  | item (index : Nat)
  deriving DecidableEq, Repr

/-- What is wrong with a value. -/
inductive IssueKind
  | missing
  | notText
  | notInteger
  | fractional
  | infinite
  | notANumeral
  | notABool
  | notABoolWord
  | notAList
  | notATable
  | notARecord
  deriving DecidableEq, Repr

/-- Something wrong, with the way to it. -/
structure Issue where
  way : List Step
  kind : IssueKind
  deriving DecidableEq, Repr

/-- The code of what is wrong. -/
def IssueKind.code : IssueKind → Text
  | .missing => "missing"
  | .notText => "string_type"
  | .notInteger => "int_type"
  | .fractional => "int_from_float"
  | .infinite => "finite_number"
  | .notANumeral => "int_parsing"
  | .notABool => "bool_type"
  | .notABoolWord => "bool_parsing"
  | .notAList => "list_type"
  | .notATable => "dict_type"
  | .notARecord => "model_type"

/-- The result of a reading: a value, or all that is wrong. -/
abbrev Checked (α : Type) := Except (List Issue) α

namespace Checked

variable {α β : Type}

/-- One issue about the value at hand. -/
def fail (kind : IssueKind) : Checked α := .error [⟨[], kind⟩]

/-- Both results, or the issues of both. -/
def both : Checked α → Checked β → Checked (α × β)
  | .ok a, .ok b => .ok (a, b)
  | .ok _, .error later => .error later
  | .error issues, .ok _ => .error issues
  | .error issues, .error later => .error (issues ++ later)

/-- All results, or the issues of all. -/
def all : List (Checked α) → Checked (List α)
  | [] => .ok []
  | result :: rest => (both result (all rest)).map fun (a, as) => a :: as

/-- A result at the end of a step: its issues are that step further away. -/
def within (step : Step) : Checked α → Checked α
  | .ok a => .ok a
  | .error issues => .error (issues.map fun issue => { issue with way := step :: issue.way })

end Checked

namespace Schema

variable {α : Type}

/-- A text. -/
def asText : Value → Checked Text
  | .str t => .ok t
  | _ => .fail .notText

/-- The numeral without a fraction of zeros. -/
def dropZeroFraction (t : Text) : Text :=
  match Text.cutAt '.' t with
  | (whole, some places) => if places.all (· = '0') then whole else t
  | (_, none) => t

/-- The integer of a numeral in ASCII digits, which may have a fraction of zeros. -/
def numeral? (t : Text) : Option Int :=
  let plain := dropZeroFraction (Text.trim Numeral.isSurround t)
  if plain.all fun c => c.toNat < 0x80 then Numeral.integer? plain else none

/-- An integer, also as a whole floating point number, a truth value or a
numeral. -/
def asInteger : Value → Checked Int
  | .int n => .ok n
  | .bool b => .ok (if b then 1 else 0)
  | .float x =>
    match x.truncate? with
    | none => .fail .infinite
    | some n =>
      if Double.ofRatio (n < 0) n.natAbs 1 = x ∨ x.isZero then .ok n else .fail .fractional
  | .str t =>
    match numeral? t with
    | some n => .ok n
    | none => .fail .notANumeral
  | _ => .fail .notInteger

/-- The words for true. -/
def trueWords : List Text := ["1", "on", "t", "true", "y", "yes"]

/-- The words for false. -/
def falseWords : List Text := ["0", "off", "f", "false", "n", "no"]

/-- A truth value, also as zero or one or as a word. -/
def asBool : Value → Checked Bool
  | .bool b => .ok b
  | .int n => if n = 0 then .ok false else if n = 1 then .ok true else .fail .notABoolWord
  | .float x =>
    match x.truncate? with
    | some n =>
      if Double.ofRatio (n < 0) n.natAbs 1 = x ∨ x.isZero then
        if n = 0 then .ok false else if n = 1 then .ok true else .fail .notABoolWord
      else .fail .notABool
    | none => .fail .notABool
  | .str t =>
    let word := Text.lowerAscii t
    if trueWords.contains word then .ok true
    else if falseWords.contains word then .ok false
    else .fail .notABoolWord
  | _ => .fail .notABool

/-- Null as none, and any other value as `read` takes it. -/
def nullable (read : Value → Checked α) : Value → Checked (Option α)
  | .null => .ok none
  | v => (read v).map some

/-- A list with items that `read` takes. -/
def listOf (read : Value → Checked α) : Value → Checked (List α)
  | .arr items => Checked.all (items.mapIdx fun i v => Checked.within (.item i) (read v))
  | _ => .fail .notAList

/-- A table of values that `read` takes. -/
def tableOf (read : Value → Checked α) : Value → Checked (List (Text × α))
  | .obj fields =>
    Checked.all (fields.map fun (name, v) =>
      Checked.within (.field name) ((read v).map fun a => (name, a)))
  | _ => .fail .notATable

/-- A record with fields that `read` takes. -/
def record (read : Fields → Checked α) : Value → Checked α
  | .obj fields => read fields
  | _ => .fail .notARecord

/-- A field that must be there. -/
def required (name : Text) (read : Value → Checked α) (fields : Fields) : Checked α :=
  Checked.within (.field name)
    (match Ordered.get? name fields with
     | some v => read v
     | none => .fail .missing)

/-- A field that has a value of its own where it is not given. -/
def withDefault (name : Text) (standard : α) (read : Value → Checked α)
    (fields : Fields) : Checked α :=
  match Ordered.get? name fields with
  | some v => (read v).within (.field name)
  | none => .ok standard

/-- A field with two names that must be there under one of them.  The first name
decides where both are given, and names the field where neither is. -/
def requiredAliased (first second : Text) (read : Value → Checked α)
    (fields : Fields) : Checked α :=
  if Ordered.has first fields ∨ ! Ordered.has second fields then required first read fields
  else required second read fields

/-- A field with two names that has a value of its own where it is given under neither.
The first name decides where both are given. -/
def aliasedWithDefault (first second : Text) (standard : α) (read : Value → Checked α)
    (fields : Fields) : Checked α :=
  if Ordered.has first fields ∨ ! Ordered.has second fields then
    withDefault first standard read fields
  else withDefault second standard read fields

end Schema

end ClientGen
