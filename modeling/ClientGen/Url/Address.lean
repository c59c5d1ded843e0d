/-
# Numeric addresses

Which texts are addresses of the Internet Protocol: four decimal numbers up to
255 without leading zeros for version 4, and for version 6 eight groups of up to
four hexadecimal digits, where one run of zero groups may be left out and the
last two groups may be written as a version 4 address.
-/
import ClientGen.Text.Basic

namespace ClientGen.Address

/-- Whether a text is a number of a version 4 address. -/
def isOctet (t : Text) : Bool :=
  ! t.isEmpty && t.all Text.isAsciiDigit && t.length ≤ 3 && (t.length = 1 || t.head? != some '0') &&
    t.foldl (fun n c => 10 * n + (c.toNat - 48)) 0 ≤ 255

/-- Whether a text is a version 4 address. -/
def isVersion4 (t : Text) : Bool :=
  let parts := Text.splitAt '.' t
  parts.length = 4 && parts.all isOctet

/-- Whether a text has the outline of a version 4 address: `runs` further runs of
digits, any one character before each; `inRun` says whether the present run has
a digit. -/
def hasOutline : Nat → Bool → Text → Bool
  | runs, inRun, [] => runs = 0 && inRun
  | 0, _, c :: rest => Text.isAsciiDigit c && hasOutline 0 true rest
  | runs + 1, inRun, c :: rest =>
    (Text.isAsciiDigit c && hasOutline (runs + 1) true rest) ||
      (inRun && hasOutline runs false rest)

/-- Whether a host is to be read as a version 4 address. -/
def looksLikeVersion4 (t : Text) : Bool := hasOutline 3 false t

/-- Whether a text is a group of a version 6 address. -/
def isGroup (t : Text) : Bool :=
  ! t.isEmpty && t.length ≤ 4 && t.all fun c => (Text.hexValue? c).isSome

/-- The groups between colons, with two groups in the place of a final version 4
address; `none` if that is none. -/
def expandTail? (parts : List Text) : Option (List Text) :=
  match parts.getLast? with
  | none => some parts
  | some last =>
    if last.elem '.' then
      if isVersion4 last then some (parts.dropLast ++ [['0'], ['0']]) else none
    else some parts

/-- Whether groups between colons, the first and the last of which are not both
needed, make up an address with the given number of groups left out. -/
def fits (high low : List Text) : Bool :=
  let high := if high = [[]] then [] else high
  let low := if low = [[]] then [] else low
  high.all isGroup && low.all isGroup && high.length + low.length < 8

/-- Whether groups between colons make up an address: eight groups, or fewer with
one empty place that is neither the first nor the last. -/
def areGroups (parts : List Text) : Bool :=
  let inner := (parts.drop 1).dropLast
  if inner.any List.isEmpty then
    let before := inner.takeWhile (! ·.isEmpty)
    let after := inner.drop (before.length + 1)
    ! after.any List.isEmpty &&
      fits (parts.take 1 ++ before) (after ++ parts.drop (parts.length - 1))
  else parts.length = 8 && parts.all isGroup

/-- The address without a zone, if the zone is well formed. -/
def withoutZone? (t : Text) : Option Text :=
  match Text.cutAt '%' t with
  | (address, none) => some address
  | (address, some zone) => if zone.isEmpty || zone.elem '%' then none else some address

/-- Whether a text is a version 6 address. -/
def isVersion6 (t : Text) : Bool :=
  match withoutZone? t with
  | none => false
  | some address =>
    ! address.elem '/' && 3 ≤ (Text.splitAt ':' address).length &&
      match expandTail? (Text.splitAt ':' address) with
      | none => false
      | some parts => parts.length ≤ 9 && areGroups parts

end ClientGen.Address
