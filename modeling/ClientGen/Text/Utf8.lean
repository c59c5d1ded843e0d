/-
# UTF-8

The encoding of a text as octets, and its reading back.  Reading cuts the
octets into well-formed characters and ill-formed stretches: a stretch is the
longest beginning of a character that breaks off, or the single octet that can
begin none.  A strict reading reports the first stretch and why it is one; a
lenient reading puts the replacement character for each.
-/
import ClientGen.Text.Basic

namespace ClientGen.Utf8

/-- Why a stretch of octets is no character. -/
inductive Defect
  /-- No character begins with this octet. -/
  | badStart
  /-- An octet that cannot continue the character begun. -/
  | badContinuation
  /-- The octets end within a character. -/
  | cutOff
  deriving DecidableEq, Repr

/-- The first ill-formed stretch of a sequence of octets: the number of octets
before it, its own octets and the reason. -/
structure Flaw where
  position : Nat
  octets : List UInt8
  defect : Defect
  deriving DecidableEq, Repr

/-- The octets of one character. -/
def encodeChar (c : Char) : List UInt8 :=
  let n := c.toNat
  if n < 0x80 then [n.toUInt8]
  else if n < 0x800 then [(0xC0 + n / 64).toUInt8, (0x80 + n % 64).toUInt8]
  else if n < 0x10000 then
    [(0xE0 + n / 4096).toUInt8, (0x80 + n / 64 % 64).toUInt8, (0x80 + n % 64).toUInt8]
  else
    [(0xF0 + n / 262144).toUInt8, (0x80 + n / 4096 % 64).toUInt8, (0x80 + n / 64 % 64).toUInt8,
     (0x80 + n % 64).toUInt8]

/-- The octets of a text. -/
def encode (t : Text) : List UInt8 := t.flatMap encodeChar

/-- What the first octet of a character announces: the bits it contributes, the
number of octets to follow, and the least and greatest value of the next one.
`none` where the octet begins no character. -/
def announce (first : UInt8) : Option (Nat × Nat × UInt8 × UInt8) :=
  let n := first.toNat
  if n < 0xC2 then none
  else if n < 0xE0 then some (n - 0xC0, 1, 0x80, 0xBF)
  else if n = 0xE0 then some (0, 2, 0xA0, 0xBF)
  else if n = 0xED then some (0xD, 2, 0x80, 0x9F)
  else if n < 0xF0 then some (n - 0xE0, 2, 0x80, 0xBF)
  else if n = 0xF0 then some (0, 3, 0x90, 0xBF)
  else if n < 0xF4 then some (n - 0xF0, 3, 0x80, 0xBF)
  else if n = 0xF4 then some (4, 3, 0x80, 0x8F)
  else none

/-- One step of reading: a character, or an ill-formed stretch of octets. -/
inductive Piece
  | char (c : Char) (size : Nat)
  | flaw (octets : List UInt8) (defect : Defect)
  deriving DecidableEq, Repr

/-- Reads the octets that still belong to a character of which `read` octets
are known, with the bits `bits`. -/
def continueWith (bits : Nat) (read : List UInt8) :
    Nat → UInt8 → UInt8 → List UInt8 → Piece
  | 0, _, _, _ => .char (Text.charOfCode bits) read.length
  | _ + 1, _, _, [] => .flaw read .cutOff
  | owed + 1, low, high, octet :: rest =>
    if low ≤ octet ∧ octet ≤ high then
      continueWith (64 * bits + (octet.toNat - 0x80)) (read ++ [octet]) owed 0x80 0xBF rest
    else .flaw read .badContinuation

/-- The first piece of a sequence of octets. -/
def nextPiece (first : UInt8) (rest : List UInt8) : Piece :=
  if first < 0x80 then .char (Text.charOfCode first.toNat) 1
  else match announce first with
    | none => .flaw [first] .badStart
    | some (bits, owed, low, high) => continueWith bits [first] owed low high rest

/-- The number of octets of a piece. -/
def Piece.size : Piece → Nat
  | .char _ size => size
  | .flaw octets _ => octets.length

/-- The pieces of a sequence of octets.  `skip` octets at the front belong to
the piece read last. -/
def piecesFrom : Nat → List UInt8 → List Piece
  | _, [] => []
  | skip + 1, _ :: rest => piecesFrom skip rest
  | 0, first :: rest =>
    let piece := nextPiece first rest
    piece :: piecesFrom (piece.size - 1) rest

/-- The text that a sequence of octets encodes, or its first flaw; `position`
octets precede these. -/
def decodePieces : Nat → List Piece → Except Flaw Text
  | _, [] => .ok []
  | position, .flaw octets defect :: _ => .error ⟨position, octets, defect⟩
  | position, .char c size :: rest => (decodePieces (position + size) rest).map (c :: ·)

/-- The text that a sequence of octets encodes, or its first flaw. -/
def decode (octets : List UInt8) : Except Flaw Text :=
  decodePieces 0 (piecesFrom 0 octets)

/-- The text of a sequence of octets, with the replacement character for each
ill-formed stretch. -/
def decodeLossy (octets : List UInt8) : Text :=
  (piecesFrom 0 octets).map fun
    | .char c _ => c
    | .flaw _ _ => '\uFFFD'

/-- The wording of a defect. -/
def Defect.message : Defect → Text
  | .badStart => "invalid start byte"
  | .badContinuation => "invalid continuation byte"
  | .cutOff => "unexpected end of data"

/-- The wording of a flaw. -/
def Flaw.message (flaw : Flaw) : Text :=
  match flaw.octets with
  | [octet] =>
    "'utf-8' codec can't decode byte 0x" ++ Text.hex 2 octet.toNat ++ " in position " ++
      Text.ofNat flaw.position ++ ": " ++ flaw.defect.message
  | octets =>
    "'utf-8' codec can't decode bytes in position " ++ Text.ofNat flaw.position ++ "-" ++
      Text.ofNat (flaw.position + octets.length - 1) ++ ": " ++ flaw.defect.message

end ClientGen.Utf8
