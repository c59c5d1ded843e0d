/-
# Reading JSON

A reader for JSON texts with the common extensions of the number grammar by
`NaN`, `Infinity` and `-Infinity`.  Blanks are the four of the JSON grammar; of
fields with one name the last value counts, at the place of the first.

The strings that are read are sequences of Unicode scalar values.  The escapes of
a high and a low surrogate in a row denote one character; the escape of one that
stands alone denotes none, and is read as the replacement character.

A failure names what was missing and where: the offset in characters, the line
and the column.  Where several things are wrong, the first one met from left to
right is reported.
-/
import ClientGen.Value.Basic
import ClientGen.Number.Numeral

namespace ClientGen.Json

/-- What is wrong at a place of a JSON text. -/
inductive Complaint
  | expectingValue
  | expectingName
  | expectingColon
  | expectingComma
  | unterminatedString
  | controlCharacter
  | badEscape
  | badCodeEscape
  | extraData
  | byteOrderMark
  deriving DecidableEq, Repr

/-- Why reading stops: a complaint about the text from some place on, or an
integer with more digits than are converted. -/
inductive Stop
  | complaint (what : Complaint) (rest : Text)
  | tooManyDigits (count : Nat)

/-- A place in a text where reading failed. -/
structure Place where
  line : Nat
  column : Nat
  offset : Nat
  deriving DecidableEq, Repr

/-- A failure to read a JSON text. -/
inductive Fault
  | malformed (what : Complaint) (place : Place)
  | tooManyDigits (count : Nat)
  deriving DecidableEq, Repr

/-- Whether `c` may stand between the tokens of a JSON text. -/
def isSpace (c : Char) : Bool := c = ' ' || c = '\t' || c = '\n' || c = '\r'

/-- Drops the space before the next token. -/
def skipSpace (t : Text) : Text := t.dropWhile isSpace

/-- The code that a one-letter escape denotes. -/
def escapeCode? (c : Char) : Option Nat :=
  if c = '"' ∨ c = '\\' ∨ c = '/' then some c.toNat
  else if c = 'b' then some 8
  else if c = 'f' then some 12
  else if c = 'n' then some 10
  else if c = 'r' then some 13
  else if c = 't' then some 9
  else none

/-- The codes of a string up to its closing quote, and the text after it.
`opening` is the text from the opening quote on. -/
def stringCodes (opening : Text) : Text → Except Stop (List Nat × Text)
  | [] => .error (.complaint .unterminatedString opening)
  | '"' :: rest => .ok ([], rest)
  | '\\' :: 'u' :: a :: b :: c :: d :: next :: rest =>
    match Text.hexNumber? [a, b, c, d] with
    | some code => (stringCodes opening (next :: rest)).map fun (codes, t) => (code :: codes, t)
    | none =>
      .error (.complaint .badCodeEscape ('u' :: a :: b :: c :: d :: next :: rest))
  | '\\' :: 'u' :: rest => .error (.complaint .badCodeEscape ('u' :: rest))
  | ['\\'] => .error (.complaint .unterminatedString opening)
  | '\\' :: c :: rest =>
    match escapeCode? c with
    | some code => (stringCodes opening rest).map fun (codes, t) => (code :: codes, t)
    | none => .error (.complaint .badEscape ('\\' :: c :: rest))
  | c :: rest =>
    if c.toNat < 0x20 then .error (.complaint .controlCharacter (c :: rest))
    else (stringCodes opening rest).map fun (codes, t) => (c.toNat :: codes, t)

/-- The characters of a sequence of codes, a high and a low surrogate in a row
being one character. -/
def joinSurrogates : List Nat → Text
  | [] => []
  | [n] => [Text.charOfCode n]
  | high :: low :: rest =>
    if 0xD800 ≤ high ∧ high < 0xDC00 ∧ 0xDC00 ≤ low ∧ low < 0xE000 then
      Text.charOfCode (0x10000 + (high - 0xD800) * 0x400 + (low - 0xDC00)) :: joinSurrogates rest
    else Text.charOfCode high :: joinSurrogates (low :: rest)

/-- A string, from after its opening quote, and the text after it. -/
def string (opening rest : Text) : Except Stop (Text × Text) :=
  (stringCodes opening rest).map fun (codes, t) => (joinSurrogates codes, t)

/-- The fraction of a number, if a point and a digit follow, and the rest. -/
def fraction (t : Text) : Text × Text :=
  match t with
  | '.' :: d :: rest =>
    if Text.isAsciiDigit d then
      ((d :: rest).takeWhile Text.isAsciiDigit, (d :: rest).dropWhile Text.isAsciiDigit)
    else ([], t)
  | _ => ([], t)

/-- The exponent of a number, if there is one with a digit, and the rest. -/
def exponent (t : Text) : Option Int × Text :=
  match t with
  | c :: rest =>
    if c = 'e' ∨ c = 'E' then
      let (negative, digits) := Numeral.takeSign rest
      match digits.takeWhile Text.isAsciiDigit with
      | [] => (none, t)
      | taken =>
        let n : Int := Numeral.digitsValue taken
        (some (if negative then -n else n), digits.dropWhile Text.isAsciiDigit)
    else (none, t)
  | [] => (none, t)

/-- The whole part of a number: a zero alone, or digits without a leading zero;
and the rest. -/
def wholePart (t : Text) : Text × Text :=
  match t with
  | '0' :: rest => (['0'], rest)
  | _ => (t.takeWhile Text.isAsciiDigit, t.dropWhile Text.isAsciiDigit)

/-- A number, at whose first character `start` begins: an integer if it has
neither fraction nor exponent. -/
def number (start : Text) : Except Stop (Value × Text) :=
  let (negative, t) : Bool × Text :=
    match start with
    | '-' :: rest => (true, rest)
    | _ => (false, start)
  let (whole, t) := wholePart t
  if whole.isEmpty then .error (.complaint .expectingValue start)
  else
    let (places, t) := fraction t
    match exponent t with
    | (none, t) =>
      if places.isEmpty then
        if whole.length > Numeral.maxDigits then .error (.tooManyDigits whole.length)
        else
          let n : Int := Numeral.digitsValue whole
          .ok (.int (if negative then -n else n), t)
      else .ok (.float (Numeral.Parts.toDouble ⟨whole, places, 0⟩ negative), t)
    | (some e, t) => .ok (.float (Numeral.Parts.toDouble ⟨whole, places, e⟩ negative), t)

/-- The constants and their values. -/
def constants : List (Text × Value) :=
  [("null", .null), ("true", .bool true), ("false", .bool false), ("NaN", .float .nan),
   ("Infinity", .float (.infinity false)), ("-Infinity", .float (.infinity true))]

/-- A constant or a number. -/
def scalar (start : Text) : Except Stop (Value × Text) :=
  match constants.findSome? fun (word, value) =>
      (Text.dropStart? word start).map fun rest => (value, rest) with
  | some found => .ok found
  | none => number start

mutual

/-- A value and the text after it.  The first argument bounds the depth of the
calls; twice the length of the text is enough. -/
def value : Nat → Text → Except Stop (Value × Text)
  | 0, t => .error (.complaint .expectingValue t)
  | fuel + 1, t =>
    match t with
    | '"' :: rest => (string t rest).map fun (s, after) => (.str s, after)
    | '[' :: rest =>
      match skipSpace rest with
      | ']' :: after => .ok (.arr [], after)
      | start => (items fuel start).map fun (found, after) => (.arr found, after)
    | '{' :: rest =>
      match skipSpace rest with
      | '}' :: after => .ok (.obj [], after)
      | start =>
        (members fuel start).map fun (found, after) => (.obj (Ordered.ofPairs found), after)
    | _ => scalar t

/-- The items of an array that is not empty, up to its closing bracket. -/
def items : Nat → Text → Except Stop (List Value × Text)
  | 0, t => .error (.complaint .expectingValue t)
  | fuel + 1, t => do
    let (first, after) ← value fuel t
    match skipSpace after with
    | ']' :: rest => .ok ([first], rest)
    | ',' :: rest =>
      let (more, rest) ← items fuel (skipSpace rest)
      .ok (first :: more, rest)
    | rest => .error (.complaint .expectingComma rest)

/-- The members of an object that is not empty, up to its closing brace. -/
def members : Nat → Text → Except Stop (List (Text × Value) × Text)
  | 0, t => .error (.complaint .expectingValue t)
  | fuel + 1, t => do
    match t with
    | '"' :: start =>
      let (name, after) ← string t start
      match skipSpace after with
      | ':' :: rest =>
        let (first, after) ← value fuel (skipSpace rest)
        match skipSpace after with
        | '}' :: rest => .ok ([(name, first)], rest)
        | ',' :: rest =>
          let (more, rest) ← members fuel (skipSpace rest)
          .ok ((name, first) :: more, rest)
        | rest => .error (.complaint .expectingComma rest)
      | rest => .error (.complaint .expectingColon rest)
    | _ => .error (.complaint .expectingName t)

end

/-- The whole text as one value. -/
def document (t : Text) : Except Stop Value :=
  match t with
  | '\uFEFF' :: _ => .error (.complaint .byteOrderMark t)
  | _ => do
    let (found, after) ← value (2 * t.length + 2) (skipSpace t)
    match skipSpace after with
    | [] => .ok found
    | rest => .error (.complaint .extraData rest)

/-- The place after the characters `before`. -/
def placeAfter (before : Text) : Place where
  line := before.count '\n' + 1
  column := (before.reverse.takeWhile (· ≠ '\n')).length + 1
  offset := before.length

/-- The value that a JSON text denotes, or what is wrong with the text. -/
def parse (t : Text) : Except Fault Value :=
  match document t with
  | .ok found => .ok found
  | .error (.complaint what rest) =>
    .error (.malformed what (placeAfter (t.take (t.length - rest.length))))
  | .error (.tooManyDigits count) => .error (.tooManyDigits count)

/-- The wording of a complaint. -/
def Complaint.message : Complaint → Text
  | .expectingValue => "Expecting value"
  | .expectingName => "Expecting property name enclosed in double quotes"
  | .expectingColon => "Expecting ':' delimiter"
  | .expectingComma => "Expecting ',' delimiter"
  | .unterminatedString => "Unterminated string starting at"
  | .controlCharacter => "Invalid control character at"
  | .badEscape => "Invalid \\escape"
  | .badCodeEscape => "Invalid \\uXXXX escape"
  | .extraData => "Extra data"
  | .byteOrderMark => "Unexpected UTF-8 BOM (decode using utf-8-sig)"

/-- The wording of a failure. -/
def Fault.message : Fault → Text
  | .malformed what place =>
    what.message ++ ": line " ++ Text.ofNat place.line ++ " column " ++ Text.ofNat place.column ++
      " (char " ++ Text.ofNat place.offset ++ ")"
  | .tooManyDigits count => Numeral.tooManyDigits count

end ClientGen.Json
