/-
# Reading configuration texts

A reader for TOML texts.  Each function reads one construct from the front of a
text and gives what it denotes with the rest of the text, or nothing where the
text does not begin with the construct.

Arrays hold values of one type; dates and times are not among the values.
-/
import ClientGen.Text.Alphanumeric
import ClientGen.Text.Lines
import ClientGen.Toml.Number
import ClientGen.Toml.Table

namespace ClientGen.Toml

/-- Whether `c` separates tokens within a line. -/
def isSpace (c : Char) : Bool := c = ' ' || c = '\t'

/-- Drops blanks, line ends and comments; `inComment` says whether the text
begins within a comment. -/
def skipGaps (inComment : Bool) : Text → Text
  | [] => []
  | c :: rest =>
    if c = '\n' then skipGaps false rest
    else if inComment then skipGaps true rest
    else if c = '#' then skipGaps true rest
    else if Text.isBlank c then skipGaps false rest
    else c :: rest

/-- What follows the end of a line, which blanks and a comment may precede. -/
def afterLine (t : Text) : Option Text :=
  let start := t.dropWhile fun c => Text.isBlank c && c ≠ '\n'
  let start := if start.head? = some '#' then start.dropWhile (· ≠ '\n') else start
  match start with
  | [] => some []
  | '\n' :: rest => some rest
  | _ => none

/-- The character that a letter after a backslash stands for. -/
def escape? (c : Char) : Option Char :=
  if c = '0' then some '\x00'
  else if c = 'b' then some '\x08'
  else if c = 'f' then some '\x0c'
  else if c = 'n' then some '\n'
  else if c = 'r' then some '\r'
  else if c = 't' then some '\t'
  else if c = '"' ∨ c = '\\' then some c
  else none

/-- The character of a hexadecimal code. -/
def ofCode? (digits : Text) : Option Char :=
  (Text.hexNumber? digits).bind fun n => if n.isValidChar then some (Char.ofNat n) else none

/-- A character in front of what has been read. -/
def prepend (c : Char) : Text × Text → Text × Text
  | (t, rest) => (c :: t, rest)

/-- A string in double quotes, from after the opening quote. -/
def quoted : Text → Option (Text × Text)
  | [] => none
  | '"' :: rest => some ([], rest)
  | '\n' :: _ => none
  | '\\' :: 'u' :: a :: b :: c :: d :: rest => do
    let code ← ofCode? [a, b, c, d]
    (quoted rest).map (prepend code)
  | '\\' :: 'U' :: a :: b :: c :: d :: e :: f :: g :: h :: rest => do
    let code ← ofCode? [a, b, c, d, e, f, g, h]
    (quoted rest).map (prepend code)
  | '\\' :: c :: rest => do
    let c ← escape? c
    (quoted rest).map (prepend c)
  | c :: rest => (quoted rest).map (prepend c)

/-- A string in three double quotes, from after the opening ones.  A backslash at
the end of a line takes away the line end and the blanks after it; `joining` says
whether such blanks are being dropped. -/
def longQuoted (joining : Bool) : Text → Option (Text × Text)
  | [] => none
  | '"' :: '"' :: '"' :: rest => some ([], rest)
  | '\\' :: '\n' :: rest => longQuoted true rest
  | '\\' :: 'u' :: a :: b :: c :: d :: rest => do
    let code ← ofCode? [a, b, c, d]
    (longQuoted false rest).map (prepend code)
  | '\\' :: 'U' :: a :: b :: c :: d :: e :: f :: g :: h :: rest => do
    let code ← ofCode? [a, b, c, d, e, f, g, h]
    (longQuoted false rest).map (prepend code)
  | '\\' :: c :: rest => do
    let c ← escape? c
    (longQuoted false rest).map (prepend c)
  | c :: rest =>
    if joining && Text.isBlank c then longQuoted true rest
    else (longQuoted false rest).map (prepend c)

/-- A string in single quotes, from after the opening quote: nothing is escaped
in it. -/
def literal : Text → Option (Text × Text)
  | [] => none
  | '\'' :: rest => some ([], rest)
  | '\n' :: _ => none
  | c :: rest => (literal rest).map (prepend c)

/-- A string in three single quotes, from after the opening ones. -/
def longLiteral : Text → Option (Text × Text)
  | [] => none
  | '\'' :: '\'' :: '\'' :: rest => some ([], rest)
  | c :: rest => (longLiteral rest).map (prepend c)

/-- Drops the line end right after the opening quotes of a long string. -/
def dropLineEnd : Text → Text
  | '\n' :: rest => rest
  | t => t

/-- The content of a string in double quotes.  One that begins with a quote of
its own, with another one or nothing after it, is taken for a string in three
quotes: two characters are lost at each end. -/
def untriple (t : Text) : Text :=
  match t with
  | ['"'] => []
  | '"' :: '"' :: rest => rest.dropLast.dropLast
  | _ => t

/-- A string in quotes of any kind. -/
def string? : Text → Option (Text × Text)
  | '"' :: '"' :: '"' :: rest => longQuoted false (dropLineEnd rest)
  | '\'' :: '\'' :: '\'' :: rest => longLiteral (dropLineEnd rest)
  | '"' :: rest => (quoted rest).map fun (t, rest) => (untriple t, rest)
  | '\'' :: rest => literal rest
  | _ => none

/-- Whether `c` may stand in a name without quotes. -/
def isNameChar (c : Char) : Bool := Text.isAlphanumeric c || c = '_' || c = '-'

/-- A part of a name: in quotes, or a run of name characters, which may be
empty. -/
def namePart : Text → Option (Text × Text)
  | '"' :: rest => quoted rest
  | '\'' :: rest => literal rest
  | t => some (t.takeWhile isNameChar, t.dropWhile isNameChar)

/-- The first part of a name, which may begin with any character that does not
begin something else. -/
def firstPart : Text → Option (Text × Text)
  | [] => none
  | c :: rest =>
    if c = '"' ∨ c = '\'' ∨ c = '.' then namePart (c :: rest)
    else if c = '=' ∨ c = '[' ∨ c = '#' ∨ c = '\n' then none
    else some (c :: rest.takeWhile isNameChar, rest.dropWhile isNameChar)

/-- The further parts of a name up to its equals sign, each after a point. -/
def moreParts : Nat → Text → Option (List Text × Text)
  | 0, _ => none
  | fuel + 1, t =>
    match t.dropWhile fun c => Text.isBlank c && c ≠ '\n' with
    | '=' :: rest => some ([], rest)
    | '.' :: rest => do
      let (part, rest) ← namePart rest
      let (parts, rest) ← moreParts fuel rest
      some (part :: parts, rest)
    | _ => none

/-- A name with the equals sign after it.  A name that is one part may be empty;
of several parts the empty ones do not count. -/
def name (t : Text) : Option (List Text × Text) := do
  let (first, rest) ← firstPart t
  let (parts, rest) ← moreParts (rest.length + 1) rest
  if parts.isEmpty then some ([first], rest)
  else some ((first :: parts).filter (! ·.isEmpty), rest)

/-- Whether `c` ends a value that is not in quotes or brackets. -/
def endsWord (c : Char) : Bool := c = '\n' || c = '#' || c = ',' || c = ']' || c = '\x7d'

/-- A value without quotes and brackets.  In an array, numbers need not be
tidy. -/
def word (tidy : Bool) (t : Text) : Option Value :=
  if t = "true".toList then some (.bool true)
  else if t = "false".toList then some (.bool false)
  else if tidy && ! Number.isTidy t then none
  else Number.value? t

/-- The text of a value without quotes and brackets that begins a text. -/
def wordText (t : Text) : Text := Text.strip (t.takeWhile (! endsWord ·))

/-- Whether a value begins right after an equals sign: with a space, a quote or a
bracket, or as a truth value or a plain decimal number. -/
def beginsValue (t : Text) : Bool :=
  match t with
  | [] => true
  | c :: _ =>
    isSpace c || c = '"' || c = '\'' || c = '[' || c = '\x7b' ||
      (wordText t).isEmpty || wordText t = "true".toList || wordText t = "false".toList ||
      (Numeral.double? ((wordText t).filter (· ≠ '_'))).isSome

/-- The value after an equals sign.  Where no value begins at once, what is written
up to the next equals sign belongs to the name; it is given first. -/
def afterEquals : Nat → Text → Option (Text × Text)
  | 0, _ => none
  | fuel + 1, t =>
    if beginsValue t then some ([], t)
    else
      let before := t.takeWhile fun c => c ≠ '=' && c ≠ '\n'
      match t.dropWhile fun c => c ≠ '=' && c ≠ '\n' with
      | '=' :: rest => (afterEquals fuel rest).map fun (more, rest) => ('=' :: before ++ more, rest)
      | _ => none

/-- A name with the equals sign after it and all that belongs to the name beyond
it. -/
def assignedName (t : Text) : Option (List Text × Text) := do
  let (parts, rest) ← name t
  let (more, rest) ← afterEquals (rest.length + 1) rest
  some (parts.dropLast ++ (parts.getLast?.map (· ++ more)).toList, rest)

/-- Whether all values are of one type. -/
def isUniform : List Value → Bool
  | [] => true
  | first :: rest => rest.all fun value => value.typeName = first.typeName

mutual

/-- A value.  The first argument bounds the depth of the calls; the length of the
text is enough. -/
def value (tidy : Bool) : Nat → Text → Option (Value × Text)
  | 0, _ => none
  | fuel + 1, t =>
    match t with
    | '[' :: rest => do
      let (found, rest) ← items fuel rest
      if isUniform found then some (.arr found, rest) else none
    | '\x7b' :: rest =>
      match rest.dropWhile isSpace with
      | '\x7d' :: rest => some (.obj [], rest)
      | start => (entries fuel [] start).map fun (found, rest) => (.obj found, rest)
    | _ =>
      match string? t with
      | some (found, rest) => some (.str found, rest)
      | none =>
        (word tidy (wordText t)).map fun found => (found, t.dropWhile (! endsWord ·))

/-- The items of an array up to its closing bracket; gaps between commas do not
count. -/
def items : Nat → Text → Option (List Value × Text)
  | 0, _ => none
  | fuel + 1, t =>
    match skipGaps false t with
    | ']' :: rest => some ([], rest)
    | ',' :: rest => items fuel rest
    | start => do
      let (first, rest) ← value false fuel start
      match skipGaps false rest with
      | ']' :: rest => some ([first], rest)
      | ',' :: rest =>
        let (more, rest) ← items fuel rest
        some (first :: more, rest)
      | _ => none

/-- The entries of a table in braces up to its closing brace, added to `fields`. -/
def entries : Nat → Fields → Text → Option (Fields × Text)
  | 0, _, _ => none
  | fuel + 1, fields, t => do
    let (entry, rest) ← assignedName (t.dropWhile isSpace)
    let (found, rest) ← value true fuel (rest.dropWhile isSpace)
    let fields ← assign found entry fields
    match rest.dropWhile isSpace with
    | '\x7d' :: rest => some (fields, rest)
    | ',' :: rest => entries fuel fields rest
    | _ => none

end

/-- Whether `c` may stand in the name of a table without quotes. -/
def isTableNameChar (c : Char) : Bool := Text.isAsciiWord c || c = '_' || c = '-'

/-- A part of the name of a table: in quotes or a run of name characters, and not
empty. -/
def tablePart (t : Text) : Option (Text × Text) :=
  let (part, rest?) : Text × Option Text :=
    match t with
    | '"' :: rest => Text.cutAt '"' rest
    | '\'' :: rest => Text.cutAt '\'' rest
    | _ => (t.takeWhile isTableNameChar, some (t.dropWhile isTableNameChar))
  if part.isEmpty || part.elem '\n' then none else rest?.map fun rest => (part, rest)

/-- The name of a table, with the bracket after it. -/
def tableName : Nat → Text → Option (List Text × Text)
  | 0, _ => none
  | fuel + 1, t => do
    let (part, rest) ← tablePart (t.dropWhile isSpace)
    match rest.dropWhile isSpace with
    | ']' :: rest => some ([part], rest)
    | '.' :: rest =>
      let (parts, rest) ← tableName fuel rest
      some (part :: parts, rest)
    | _ => none

/-- A statement with the end of its last line. -/
def statement (t : Text) : Option (Statement × Text) :=
  match t with
  | '[' :: '[' :: rest => do
    let (parts, rest) ← tableName t.length rest
    match rest with
    | ']' :: rest => (afterLine rest).map fun rest => (.tableItem parts, rest)
    | _ => none
  | '[' :: rest => do
    let (parts, rest) ← tableName t.length rest
    (afterLine rest).map fun rest => (.table parts, rest)
  | _ => do
    let (parts, rest) ← assignedName t
    let (found, rest) ← value true (2 * t.length) (rest.dropWhile isSpace)
    (afterLine rest).map fun rest => (.assign parts found, rest)

/-- The statements of a text.  The first argument bounds their number; more than
the length of the text is enough. -/
def statements : Nat → Text → Option (List Statement)
  | 0, _ => none
  | fuel + 1, t =>
    match skipGaps false t with
    | [] => some []
    | start => do
      let (first, rest) ← statement start
      (statements fuel rest).map (first :: ·)

/-- The table that a text denotes. -/
def read (t : Text) : Option Fields := (statements (t.length + 1) t).bind tableOf

end ClientGen.Toml
