/-
# Numbers of a configuration text

A number is written without any blank, with single underscores between digits at
will.  It is a floating point number if it has a point or an exponent, and then
has digits on both sides of the point; else it is an integer in decimal,
hexadecimal, octal or binary digits.
-/
import ClientGen.Number.Numeral
import ClientGen.Value.Basic

namespace ClientGen.Toml.Number

/-- Whether the leading zeros and the underscores of a number stand where they
may: no underscore at an end, beside the point or beside another one, and a zero
in front only alone, before a point or as part of the mark of a base. -/
def isTidy (t : Text) : Bool :=
  let leads (zeroBefore : List Char) : Text → Bool
    | '0' :: c :: _ => zeroBefore.elem c
    | _ => true
  let placed :=
    t.head? != some '_' && t.getLast? != some '_' &&
      ! Text.hasPart "_." t && ! Text.hasPart "._" t
  let (unsigned, signed) : Text × Bool :=
    match t with
    | '+' :: rest | '-' :: rest => (rest, true)
    | _ => (t, false)
  ! t.isEmpty && placed &&
    (t.length = 1 ||
      (leads (if signed then ['.'] else ['.', 'o', 'b', 'x']) unsigned &&
        ! Text.hasPart "__" unsigned))

/-- The base that the letter after a zero stands for. -/
def base? (mark : Char) : Option Nat :=
  if mark = 'x' ∨ mark = 'X' then some 16
  else if mark = 'o' ∨ mark = 'O' then some 8
  else if mark = 'b' ∨ mark = 'B' then some 2
  else none

/-- The number that digits of a base denote. -/
def inBase? (base : Nat) (digits : Text) : Option Nat :=
  if digits.isEmpty then none
  else
    digits.foldl (fun acc c =>
      acc.bind fun n =>
        (Text.hexValue? c).bind fun d => if d < base then some (base * n + d) else none) (some 0)

/-- The integer that a text without underscores denotes. -/
def integer? (t : Text) : Option Int :=
  match t with
  | '0' :: mark :: digits =>
    match base? mark with
    | some base => (inBase? base digits).map Int.ofNat
    | none => if t.all (· = '0') then some 0 else none
  | _ => if t.length > Numeral.maxDigits then none else Numeral.integer? t

/-- Whether a text without underscores is laid out as a floating point number. -/
def isFloating (t : Text) : Bool :=
  t.elem '.' || (! t.elem 'x' && (t.elem 'e' || t.elem 'E'))

/-- The floating point number that a text without underscores denotes. -/
def floating? (t : Text) : Option Double :=
  let startsWithDigit := t.head?.any Text.isAsciiDigit
  let endsAtPoint := (Text.cutAt '.' t).2 = some []
  if startsWithDigit && ! endsAtPoint then Numeral.double? t else none

/-- Whether a text is one of the words for a number that is not finite. -/
def isWord (t : Text) : Bool :=
  let word := Text.lowerAscii t
  word = "inf".toList || word = "nan".toList

/-- A floating point number with a minus sign in front, zero being without
sign. -/
def negate : Double → Double
  | .nan => .nan
  | .infinity negative => .infinity (! negative)
  | .finite negative m e => .finite (! negative && m != 0) m e

/-- The number that a text denotes. -/
def value? (t : Text) : Option Value :=
  let (negative, unsigned) := Numeral.takeSign t
  let plain := unsigned.filter (· ≠ '_')
  if isFloating plain || isWord plain then
    let x? := if isFloating plain then floating? plain else Numeral.double? plain
    x?.map fun x => .float (if negative then negate x else x)
  else
    (integer? plain).map fun n => .int (if negative then -n else n)

end ClientGen.Toml.Number
