/-
# Numerals

Reading integers and decimal numbers from free text, as configuration values
and command line arguments hold them.  Blank characters around the numeral are
dropped, digits of every script count, and single underscores may stand between
digits.
-/
import ClientGen.Number.Double
import ClientGen.Text.Case
import ClientGen.Text.Digit
import ClientGen.Text.Lines

namespace ClientGen.Numeral

/-- Whether `c` may stand around a numeral: the blank characters other than the
information separators. -/
def isSurround (c : Char) : Bool := Text.isBlank c && ! (0x1C ≤ c.toNat && c.toNat ≤ 0x1F)

/-- A numeral in plain form: without blanks around it, every decimal digit as
its ASCII digit. -/
def plain (t : Text) : Text :=
  (Text.trim isSurround t).map fun c =>
    match Text.decimalValue? c with
    | some d => Nat.digitChar d
    | none => c

/-- The sign in front of a numeral, and the rest. -/
def takeSign : Text → Bool × Text
  | '-' :: rest => (true, rest)
  | '+' :: rest => (false, rest)
  | t => (false, t)

/-- Removes the underscores from digits, if each stands between two digits. -/
def joinDigits? : Text → Option Text
  | [] => some []
  | [c] => if c = '_' then none else some [c]
  | c :: d :: rest =>
    if c = '_' then none
    else if d = '_' then
      match rest with
      | [] => none
      | next :: _ =>
        if Text.isAsciiDigit c && Text.isAsciiDigit next then
          (joinDigits? rest).map (c :: ·)
        else none
    else (joinDigits? (d :: rest)).map (c :: ·)

/-- The number that ASCII digits denote. -/
def digitsValue (digits : Text) : Nat :=
  digits.foldl (fun n c => 10 * n + (c.toNat - 48)) 0

/-- The most digits that an integer may have. -/
def maxDigits : Nat := 4300

/-- The wording about an integer with more digits. -/
def tooManyDigits (count : Nat) : Text :=
  "Exceeds the limit (" ++ Text.ofNat maxDigits ++
    " digits) for integer string conversion: value has " ++ Text.ofNat count ++
    " digits; use sys.set_int_max_str_digits() to increase the limit"

/-- The integer that a text denotes, if it denotes one. -/
def integer? (t : Text) : Option Int :=
  let (negative, rest) := takeSign (plain t)
  match joinDigits? rest with
  | none => none
  | some digits =>
    if digits.isEmpty || ! digits.all Text.isAsciiDigit then none
    else some (if negative then -(digitsValue digits : Int) else digitsValue digits)

/-- The digits before and after the point, and the exponent, of an unsigned
decimal number. -/
structure Parts where
  whole : Text
  fraction : Text
  exponent : Int

/-- Reads `e` and a signed integer, or nothing at all, as the exponent. -/
def exponent? : Text → Option Int
  | [] => some 0
  | c :: rest =>
    if c = 'e' ∨ c = 'E' then
      let (negative, digits) := takeSign rest
      if digits.isEmpty || ! digits.all Text.isAsciiDigit then none
      else some (if negative then -(digitsValue digits : Int) else digitsValue digits)
    else none

/-- The parts of an unsigned decimal number: digits before or after the point,
at least one in all, and possibly an exponent. -/
def parts? (t : Text) : Option Parts :=
  let whole := t.takeWhile Text.isAsciiDigit
  let (fraction, rest) : Text × Text :=
    match t.dropWhile Text.isAsciiDigit with
    | '.' :: rest => (rest.takeWhile Text.isAsciiDigit, rest.dropWhile Text.isAsciiDigit)
    | rest => ([], rest)
  if whole.isEmpty && fraction.isEmpty then none
  else (exponent? rest).map fun e => ⟨whole, fraction, e⟩

/-- The number nearest to a decimal given by its parts. -/
def Parts.toDouble (parts : Parts) (negative : Bool) : Double :=
  Double.ofDecimal negative (digitsValue (parts.whole ++ parts.fraction))
    (parts.exponent - parts.fraction.length)

/-- The floating point number that a text denotes, if it denotes one. -/
def double? (t : Text) : Option Double :=
  let (negative, rest) := takeSign (plain t)
  let word := Text.lowerAscii rest
  if word = "inf".toList ∨ word = "infinity".toList then some (.infinity negative)
  else if word = "nan".toList then some .nan
  else (joinDigits? rest).bind fun t => (parts? t).map fun parts => parts.toDouble negative

end ClientGen.Numeral
