/-
# Writing configuration texts

The text of a table: first the fields that are no tables, each on a line of its
own, then the tables in it under their full names, those of one depth before
those of the next.  A blank line stands before the heading of a table, and a
table that holds only tables has no heading.

Strings are in double quotes.  Their escapes are those of string literals, of
which one is no part of the format: the escape by two hexadecimal digits.  A
backslash with an `x` after it is therefore given another form, whether it belongs
to such an escape or not.
-/
import ClientGen.Value.Basic

namespace ClientGen.Toml

/-- The content of a string with the escapes of string literals. -/
def escaped (t : Text) : Text := t.flatMap (Literal.encodeChar '"')

/-- The pieces of a text between the places where a backslash precedes an `x`. -/
def splitCodes : Text → List Text
  | [] => [[]]
  | '\\' :: 'x' :: rest => [] :: splitCodes rest
  | c :: rest =>
    match splitCodes rest with
    | [] => [[c]]
    | piece :: pieces => (c :: piece) :: pieces

/-- Halves each pair of backslashes. -/
def halve : Text → Text
  | [] => []
  | '\\' :: '\\' :: rest => '\\' :: halve rest
  | c :: rest => c :: halve rest

/-- What stands between two pieces in place of the backslash and the `x`: a code
of four digits begins where nothing but an odd number of backslashes, or an even
number of them after something else, is in front. -/
def joint (before : Text) : Text :=
  let size := (before.reverse.takeWhile (· = '\\')).length
  if size = 0 then "x"
  else if size = before.length then (if size % 2 = 1 then "u00" else "x")
  else if size % 2 = 0 then "u00" else "x"

/-- Puts pieces together again. -/
def joinCodes (first : Text) : List Text → Text
  | [] => first
  | piece :: pieces =>
    let before := halve first
    joinCodes (before ++ joint before ++ piece) pieces

/-- A string; there is none for a text whose one code stands in front. -/
def quote? (t : Text) : Option Text :=
  let content :=
    match splitCodes (escaped t) with
    | [[], _] => none
    | [] :: first :: pieces => some (joinCodes first pieces)
    | first :: pieces => some (joinCodes first pieces)
    | [] => some []
  content.map fun content => '"' :: content ++ ['"']

/-- A floating point number: its text, with one digit in the exponent where one is
enough. -/
def floatText (x : Double) : Text :=
  let rec shorten : Text → Text
    | [] => []
    | 'e' :: sign :: '0' :: rest =>
      if sign = '+' ∨ sign = '-' then 'e' :: sign :: rest else 'e' :: sign :: '0' :: rest
    | c :: rest => c :: shorten rest
  shorten x.toText

mutual

/-- A value that is no table, in one line. -/
def inline? : Value → Option Text
  | .null => quote? "None"
  | .bool b => some (if b then "true" else "false")
  | .int n => some (Text.ofInt n)
  | .float x => some (floatText x)
  | .str t => quote? t
  | .arr items => (inlineItems? items).map fun items => '[' :: items ++ [']']
  | .obj fields => (inlineNames? fields).map fun names => '[' :: names ++ [']']

/-- The items of an array, each with a comma. -/
def inlineItems? : List Value → Option Text
  | [] => some []
  | item :: rest => do
    let item ← inline? item
    let rest ← inlineItems? rest
    some (" " ++ item ++ "," ++ rest)

/-- The names of the fields of a table, each with a comma. -/
def inlineNames? : List (Text × Value) → Option Text
  | [] => some []
  | (name, _) :: rest => do
    let name ← quote? name
    let rest ← inlineNames? rest
    some (" " ++ name ++ "," ++ rest)

end

/-- The name of a field as it is written: bare, or in quotes. -/
def fieldName? (name : Text) : Option Text :=
  if ! name.isEmpty && name.all fun c => Text.isAsciiWord c || c = '_' || c = '-' then some name
  else quote? name

/-- Whether a value is an array with a table in it. -/
def isTableArray : Value → Bool
  | .arr items => items.any Value.isObject
  | _ => false

/-- The lines of the fields that are neither tables nor arrays of tables. -/
def ownLines? : Fields → Option Text
  | [] => some []
  | (name, value) :: rest => do
    let lines ← ownLines? rest
    if value.isObject || isTableArray value || value.isNull then some lines
    else
      let name ← fieldName? name
      let value ← inline? value
      some (name ++ " = " ++ value ++ "\n" ++ lines)

/-- The tables among the fields, by their names as written. -/
def subtables? : Fields → Option (List (Text × Fields))
  | [] => some []
  | (name, .obj fields) :: rest => do
    let name ← fieldName? name
    let more ← subtables? rest
    some ((name, fields) :: more)
  | _ :: rest => subtables? rest

/-- The full name of a table within another. -/
def within (above name : Text) : Text := if above.isEmpty then name else above ++ '.' :: name

/-- The arrays of tables among the fields, by their names as written. -/
def tableArrays? : Fields → Option (List (Text × List Fields))
  | [] => some []
  | (name, .arr items) :: rest => do
    let more ← tableArrays? rest
    if isTableArray (.arr items) then
      let name ← fieldName? name
      some ((name, items.map Value.objectFields) :: more)
    else some more
  | _ :: rest => tableArrays? rest

/-- The tables of a depth with their full names, and the text of those that have
lines of their own. -/
def itemLevels? (lines? : Text → Fields → Option Text) :
    Nat → List (Text × Fields) → Option Text
  | 0, _ => some []
  | depth + 1, tables => do
    let texts ← tables.mapM fun (name, fields) =>
      (lines? name fields).map fun lines =>
        if lines.isEmpty then [] else '[' :: name ++ "]\n".toList ++ lines
    let deeper ← tables.mapM fun (name, fields) =>
      (subtables? fields).map fun inner =>
        inner.map fun (part, fields) => (within name part, fields)
    let rest ← if deeper.flatten.isEmpty then some [] else itemLevels? lines? depth deeper.flatten
    some (texts.flatten ++ rest)

/-- The lines of a table of the given full name: those of the plain fields, then
the arrays of tables, item by item.  The first argument bounds the depth of the
arrays. -/
def lines? : Nat → Text → Fields → Option Text
  | 0, _, fields => ownLines? fields
  | depth + 1, above, fields => do
    let own ← ownLines? fields
    let arrays ← tableArrays? fields
    let texts ← arrays.mapM fun (name, items) =>
      items.mapM fun item => do
        let full := within above name
        let lines ← lines? depth full item
        let inner ← subtables? item
        let nested ← itemLevels? (lines? depth) (depth + 1)
          (inner.map fun (part, fields) => (within full part, fields))
        let heading : Text := "[[" ++ full ++ "]]\n"
        if lines.head? = some '[' then some (heading ++ '\n' :: lines ++ nested)
        else some (heading ++ lines ++ '\n' :: nested)
    some (own ++ texts.flatten.flatten)

mutual

/-- The number of levels of a value. -/
def depth : Value → Nat
  | .arr items => depthOfItems items + 1
  | .obj fields => depthOfFields fields + 1
  | _ => 0

/-- The greatest number of levels of the items. -/
def depthOfItems : List Value → Nat
  | [] => 0
  | item :: rest => max (depth item) (depthOfItems rest)

/-- The greatest number of levels of the fields. -/
def depthOfFields : List (Text × Value) → Nat
  | [] => 0
  | (_, value) :: rest => max (depth value) (depthOfFields rest)

end

/-- The text of the tables of one depth, after the text before them, and the
tables of the next depth. -/
def level? (before : Text) : List (Text × Fields) → Option (Text × List (Text × Fields))
  | [] => some (before, [])
  | (name, fields) :: rest => do
    let lines ← lines? (depthOfFields fields) name fields
    let inner ← subtables? fields
    let deeper := inner.map fun (part, fields) => (within name part, fields)
    let blank : Text :=
      if before.isEmpty || before.drop (before.length - 2) = ['\n', '\n'] then [] else ['\n']
    let here : Text :=
      if lines.isEmpty && ! inner.isEmpty then []
      else blank ++ "[" ++ name ++ "]\n" ++ lines
    let (text, more) ← level? (before ++ here) rest
    some (text, deeper ++ more)

/-- The text of the tables of one depth and of all below, up to a number of
depths. -/
def levels? : Nat → Text → List (Text × Fields) → Option Text
  | 0, before, _ => some before
  | depth + 1, before, tables =>
    if tables.isEmpty then some before
    else do
      let (text, deeper) ← level? before tables
      levels? depth text deeper

/-- The text of a table; there is none where one of its strings has none. -/
def write? (fields : Fields) : Option Text := do
  let lines ← lines? (depthOfFields fields) [] fields
  let tables ← subtables? fields
  levels? (depthOfFields fields + 1) lines tables

end ClientGen.Toml
