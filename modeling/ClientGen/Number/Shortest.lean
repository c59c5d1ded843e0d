/-
# The shortest decimal of a binary number

A finite number is written with the fewest decimal digits that read back as the
same number, and among the decimals of that length with the one nearest to it.
For each number of digits it suffices to look at the two decimals next to the
value: if any decimal of that length reads back, one of these does.

The decimal is then laid out: positionally while its point lies not far from
its digits, else with a power of ten.
-/
import ClientGen.Number.Double

namespace ClientGen.Double

/-- A positive decimal: `0.d₁d₂… * 10 ^ point`, with `digits` the number
`d₁d₂…`. -/
structure Decimal where
  digits : Nat
  point : Int
  deriving DecidableEq, Repr

/-- The least `k` with `num / den < 10 ^ k`, sought upward from `k`. -/
def pointFrom : Nat → Nat → Nat → Int → Int
  | 0, _, _, k => k
  | fuel + 1, num, den, k =>
    let below := if k < 0 then num * Nat.pow 10 k.natAbs < den else num < den * Nat.pow 10 k.natAbs
    if below then k else pointFrom fuel num den (k + 1)

/-- The place of the decimal point of `num / den`: the least `k` with
`num / den < 10 ^ k`.  The search starts from an estimate that is never too
large and at most two too small. -/
def pointOf (num den : Nat) : Int :=
  let bits : Int := (num.log2 : Int) - (den.log2 : Int)
  pointFrom 4 num den ((bits - 1) * 30103 / 100000)

/-- The decimals of `count` digits next to `num / den`, below and above, the
nearer first and of two equally near ones the even first. -/
def neighbours (num den : Nat) (point : Int) (count : Nat) : List Decimal :=
  let shift : Int := count - point
  let scale := Nat.pow 10 shift.natAbs
  let (n, d) := if shift < 0 then (num, den * scale) else (num * scale, den)
  let q := n / d
  let r := n % d
  let lower : Decimal := ⟨q, point⟩
  let upper : Decimal := if q + 1 = Nat.pow 10 count then ⟨1, point + 1⟩ else ⟨q + 1, point⟩
  if r = 0 then [lower]
  else if 2 * r < d ∨ (2 * r = d ∧ q % 2 = 0) then [lower, upper]
  else [upper, lower]

/-- The number that a decimal reads as. -/
def ofPlaces (decimal : Decimal) : Double :=
  ofDecimal false decimal.digits (decimal.point - (Text.ofNat decimal.digits).length)

/-- The first decimal of `count`, `count + 1`, … digits that reads back as
`value`, tried for `tries` lengths. -/
def shortestFrom (value : Double) (num den : Nat) (point : Int) : Nat → Nat → Decimal
  | 0, count => ⟨num * Nat.pow 10 count / den, point⟩
  | tries + 1, count =>
    match (neighbours num den point count).find? fun d => ofPlaces d = value with
    | some decimal => decimal
    | none => shortestFrom value num den point tries (count + 1)

/-- The shortest decimal that reads back as `m * 2 ^ e`, for positive `m`;
seventeen digits always suffice. -/
def shortest (m : Nat) (e : Int) : Decimal :=
  let num := if e < 0 then m else m * Nat.pow 2 e.natAbs
  let den := if e < 0 then Nat.pow 2 e.natAbs else 1
  shortestFrom (.finite false m e) num den (pointOf num den) 17 1

/-- How decimals are laid out: positionally when the point lies in the given
interval, else with an exponent of at least `exponentDigits` digits. -/
structure Layout where
  leastPoint : Int
  greatestPoint : Int
  exponentDigits : Nat

/-- From `0.0001` up to sixteen digits before the point positionally; beyond,
with a signed exponent of two digits or more. -/
def standardLayout : Layout := ⟨-3, 16, 2⟩

/-- The text of a decimal with digits `ds` and the given place of the point. -/
def layOut (layout : Layout) (ds : Text) (point : Int) : Text :=
  if layout.leastPoint ≤ point ∧ point ≤ layout.greatestPoint then
    if point ≤ 0 then "0." ++ List.replicate point.natAbs '0' ++ ds
    else
      let whole := ds.take point.natAbs
      let zeros := List.replicate (point.natAbs - ds.length) '0'
      let places := ds.drop point.natAbs
      whole ++ zeros ++ "." ++ (if places.isEmpty then ['0'] else places)
  else
    let exponent := point - 1
    let size := Text.ofNat exponent.natAbs
    let fraction : Text := if ds.length ≤ 1 then [] else '.' :: ds.drop 1
    ds.take 1 ++ fraction ++ "e" ++ (if exponent < 0 then "-" else "+") ++
      List.replicate (layout.exponentDigits - size.length) '0' ++ size

/-- The text of a number. -/
def toText : Double → Text
  | .nan => "nan"
  | .infinity negative => (if negative then "-inf" else "inf")
  | .finite negative m e =>
    let sign : Text := if negative then "-" else ""
    if m = 0 then sign ++ "0.0"
    else
      let decimal := shortest m e
      sign ++ layOut standardLayout (Text.dropEndWhile (· = '0') (Text.ofNat decimal.digits))
        decimal.point

end ClientGen.Double
