/-
# Punycode

The encoding of a Unicode label in letters, digits and hyphens (RFC 3492).  The
ASCII characters stand in front; then the other characters follow in the order of
their codes, each as the number of steps that a decoder makes before it inserts
the character.  The numbers are written with a base of 36, least digit first, and
thresholds that follow the numbers before.
-/
import ClientGen.Text.Basic

namespace ClientGen.Punycode

/-- The base of the digits. -/
def base : Nat := 36

/-- The digit of a value: a letter, then the decimal digits. -/
def digit (n : Nat) : Char := Char.ofNat (if n < 26 then 97 + n else 22 + n)

/-- The threshold of the digit at a place, the places being counted in steps of
the base. -/
def threshold (place bias : Nat) : Nat := min 26 (max 1 (place - bias))

/-- The digits of a number from a place on.  The first argument bounds their
count; more than the number is enough. -/
def digits (bias : Nat) : Nat → Nat → Nat → Text
  | 0, _, _ => []
  | fuel + 1, place, n =>
    let t := threshold place bias
    if n < t then [digit n]
    else digit (t + (n - t) % (base - t)) :: digits bias fuel (place + base) ((n - t) / (base - t))

/-- Divides a step by 35 as long as it is large, and counts. -/
def shrink : Nat → Nat → Nat → Nat × Nat
  | 0, count, step => (count, step)
  | fuel + 1, count, step =>
    if step > 455 then shrink fuel (count + 1) (step / 35) else (count, step)

/-- The bias after a number of steps, with `size` characters in place. -/
def adapt (isFirst : Bool) (steps size : Nat) : Nat :=
  let step := if isFirst then steps / 700 else steps / 2
  let step := step + step / size
  let (count, step) := shrink step 0 step
  count * base + base * step / (step + 38)

/-- The state of encoding: the steps since the last character, the bias, the
number of characters in place, and whether none but ASCII ones are. -/
structure State where
  steps : Nat
  bias : Nat := 72
  size : Nat
  isFirst : Bool := true
  output : Text := []

/-- Passes over one character while those with the code `code` are inserted. -/
def pass (code : Nat) (s : State) (c : Char) : State :=
  if c.toNat < code then { s with steps := s.steps + 1 }
  else if c.toNat = code then
    { steps := 0
      bias := adapt s.isFirst s.steps (s.size + 1)
      size := s.size + 1
      isFirst := false
      output := s.output ++ digits s.bias (s.steps + 1) base s.steps }
  else s

/-- Inserts the characters of the given codes, which ascend, after those below
`next`. -/
def insert (label : Text) (next : Nat) (s : State) : List Nat → State
  | [] => s
  | code :: rest =>
    let start := { s with steps := s.steps + (code - next) * (s.size + 1) }
    let done := label.foldl (pass code) start
    insert label (code + 1) { done with steps := done.steps + 1 } rest

/-- The codes beyond ASCII of a label, ascending, each once. -/
def codes (label : Text) : List Nat :=
  ((label.map Char.toNat).filter (0x80 ≤ ·)).eraseDups.mergeSort

/-- The encoding of a label. -/
def encode (label : Text) : Text :=
  let plain := label.filter (·.toNat < 0x80)
  let start : State := { steps := 0, size := plain.length }
  plain ++ (if plain.isEmpty then [] else ['-']) ++ (insert label 0x80 start (codes label)).output

end ClientGen.Punycode
