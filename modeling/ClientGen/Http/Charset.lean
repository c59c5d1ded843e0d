/-
# Charsets

The text of a response body by the charset that its content type names.  The
charsets are the Unicode ones and the usual one-octet ones of western and
Russian text; a body of any other charset, or of none, counts as UTF-8.  What is
not well formed becomes the replacement character.
-/
import ClientGen.Text.Case
import ClientGen.Text.Lines
import ClientGen.Text.Utf8

namespace ClientGen

/-- A charset. -/
inductive Charset
  | utf8
  | utf8Marked
  | ascii
  | latin1
  | western
  | cyrillic
  | koi8
  | utf16
  | utf16Little
  | utf16Big
  deriving DecidableEq, Repr

namespace Charset

/-- The upper half of the western code page 1252. -/
def westernHalf : List Nat :=
  [0x20AC, 0xFFFD, 0x201A, 0x192, 0x201E, 0x2026, 0x2020, 0x2021, 0x2C6, 0x2030, 0x160,
   0x2039, 0x152, 0xFFFD, 0x17D, 0xFFFD, 0xFFFD, 0x2018, 0x2019, 0x201C, 0x201D, 0x2022,
   0x2013, 0x2014, 0x2DC, 0x2122, 0x161, 0x203A, 0x153, 0xFFFD, 0x17E, 0x178, 0xA0, 0xA1,
   0xA2, 0xA3, 0xA4, 0xA5, 0xA6, 0xA7, 0xA8, 0xA9, 0xAA, 0xAB, 0xAC, 0xAD, 0xAE, 0xAF, 0xB0,
   0xB1, 0xB2, 0xB3, 0xB4, 0xB5, 0xB6, 0xB7, 0xB8, 0xB9, 0xBA, 0xBB, 0xBC, 0xBD, 0xBE, 0xBF,
   0xC0, 0xC1, 0xC2, 0xC3, 0xC4, 0xC5, 0xC6, 0xC7, 0xC8, 0xC9, 0xCA, 0xCB, 0xCC, 0xCD, 0xCE,
   0xCF, 0xD0, 0xD1, 0xD2, 0xD3, 0xD4, 0xD5, 0xD6, 0xD7, 0xD8, 0xD9, 0xDA, 0xDB, 0xDC, 0xDD,
   0xDE, 0xDF, 0xE0, 0xE1, 0xE2, 0xE3, 0xE4, 0xE5, 0xE6, 0xE7, 0xE8, 0xE9, 0xEA, 0xEB, 0xEC,
   0xED, 0xEE, 0xEF, 0xF0, 0xF1, 0xF2, 0xF3, 0xF4, 0xF5, 0xF6, 0xF7, 0xF8, 0xF9, 0xFA, 0xFB,
   0xFC, 0xFD, 0xFE, 0xFF]

/-- The upper half of the Cyrillic code page 1251. -/
def cyrillicHalf : List Nat :=
  [0x402, 0x403, 0x201A, 0x453, 0x201E, 0x2026, 0x2020, 0x2021, 0x20AC, 0x2030, 0x409, 0x2039,
   0x40A, 0x40C, 0x40B, 0x40F, 0x452, 0x2018, 0x2019, 0x201C, 0x201D, 0x2022, 0x2013, 0x2014,
   0xFFFD, 0x2122, 0x459, 0x203A, 0x45A, 0x45C, 0x45B, 0x45F, 0xA0, 0x40E, 0x45E, 0x408, 0xA4,
   0x490, 0xA6, 0xA7, 0x401, 0xA9, 0x404, 0xAB, 0xAC, 0xAD, 0xAE, 0x407, 0xB0, 0xB1, 0x406,
   0x456, 0x491, 0xB5, 0xB6, 0xB7, 0x451, 0x2116, 0x454, 0xBB, 0x458, 0x405, 0x455, 0x457,
   0x410, 0x411, 0x412, 0x413, 0x414, 0x415, 0x416, 0x417, 0x418, 0x419, 0x41A, 0x41B, 0x41C,
   0x41D, 0x41E, 0x41F, 0x420, 0x421, 0x422, 0x423, 0x424, 0x425, 0x426, 0x427, 0x428, 0x429,
   0x42A, 0x42B, 0x42C, 0x42D, 0x42E, 0x42F, 0x430, 0x431, 0x432, 0x433, 0x434, 0x435, 0x436,
   0x437, 0x438, 0x439, 0x43A, 0x43B, 0x43C, 0x43D, 0x43E, 0x43F, 0x440, 0x441, 0x442, 0x443,
   0x444, 0x445, 0x446, 0x447, 0x448, 0x449, 0x44A, 0x44B, 0x44C, 0x44D, 0x44E, 0x44F]

/-- The upper half of KOI8-R. -/
def koi8Half : List Nat :=
  [0x2500, 0x2502, 0x250C, 0x2510, 0x2514, 0x2518, 0x251C, 0x2524, 0x252C, 0x2534, 0x253C,
   0x2580, 0x2584, 0x2588, 0x258C, 0x2590, 0x2591, 0x2592, 0x2593, 0x2320, 0x25A0, 0x2219,
   0x221A, 0x2248, 0x2264, 0x2265, 0xA0, 0x2321, 0xB0, 0xB2, 0xB7, 0xF7, 0x2550, 0x2551,
   0x2552, 0x451, 0x2553, 0x2554, 0x2555, 0x2556, 0x2557, 0x2558, 0x2559, 0x255A, 0x255B,
   0x255C, 0x255D, 0x255E, 0x255F, 0x2560, 0x2561, 0x401, 0x2562, 0x2563, 0x2564, 0x2565,
   0x2566, 0x2567, 0x2568, 0x2569, 0x256A, 0x256B, 0x256C, 0xA9, 0x44E, 0x430, 0x431, 0x446,
   0x434, 0x435, 0x444, 0x433, 0x445, 0x438, 0x439, 0x43A, 0x43B, 0x43C, 0x43D, 0x43E, 0x43F,
   0x44F, 0x440, 0x441, 0x442, 0x443, 0x436, 0x432, 0x44C, 0x44B, 0x437, 0x448, 0x44D, 0x449,
   0x447, 0x44A, 0x42E, 0x410, 0x411, 0x426, 0x414, 0x415, 0x424, 0x413, 0x425, 0x418, 0x419,
   0x41A, 0x41B, 0x41C, 0x41D, 0x41E, 0x41F, 0x42F, 0x420, 0x421, 0x422, 0x423, 0x416, 0x412,
   0x42C, 0x42B, 0x417, 0x428, 0x42D, 0x429, 0x427, 0x42A]

/-- The character of an octet in a charset with ASCII below and the given codes
above. -/
def singleOctet (upper : List Nat) (octet : UInt8) : Char :=
  Text.charOfCode
    (if octet < 0x80 then octet.toNat else upper.getD (octet.toNat - 0x80) 0xFFFD)

/-- The 16-bit units of octets, the more significant octet first or last.  A
single octet at the end is no unit, and stands as a lone surrogate would. -/
def units (big : Bool) : List UInt8 → List Nat
  | [] => []
  | [_] => [0xDC00]
  | a :: b :: rest =>
    (if big then 256 * a.toNat + b.toNat else 256 * b.toNat + a.toNat) :: units big rest

/-- The characters of 16-bit units: two surrogates in a row are one character. -/
def joinUnits : List Nat → Text
  | [] => []
  | [n] => [Text.charOfCode n]
  | high :: low :: rest =>
    if 0xD800 ≤ high ∧ high < 0xDC00 ∧ 0xDC00 ≤ low ∧ low < 0xE000 then
      Text.charOfCode (0x10000 + (high - 0xD800) * 0x400 + (low - 0xDC00)) :: joinUnits rest
    else Text.charOfCode high :: joinUnits (low :: rest)

/-- The text of octets in a charset. -/
def decode (charset : Charset) (octets : List UInt8) : Text :=
  match charset with
  | .utf8 => Utf8.decodeLossy octets
  | .utf8Marked =>
    match octets with
    | 0xEF :: 0xBB :: 0xBF :: rest => Utf8.decodeLossy rest
    | _ => Utf8.decodeLossy octets
  | .ascii => octets.map (singleOctet [])
  | .latin1 => octets.map fun octet => Text.charOfCode octet.toNat
  | .western => octets.map (singleOctet westernHalf)
  | .cyrillic => octets.map (singleOctet cyrillicHalf)
  | .koi8 => octets.map (singleOctet koi8Half)
  | .utf16Little => joinUnits (units false octets)
  | .utf16Big => joinUnits (units true octets)
  | .utf16 =>
    match octets with
    | 0xFE :: 0xFF :: rest => joinUnits (units true rest)
    | 0xFF :: 0xFE :: rest => joinUnits (units false rest)
    | _ => joinUnits (units false octets)

/-- The names of the charsets, without punctuation. -/
def names : List (Text × Charset) :=
  [("utf8", .utf8), ("u8", .utf8), ("utf", .utf8), ("utf8sig", .utf8Marked), ("ascii", .ascii),
   ("usascii", .ascii), ("latin1", .latin1), ("latin", .latin1), ("l1", .latin1),
   ("iso88591", .latin1), ("cp819", .latin1), ("8859", .latin1), ("windows1252", .western),
   ("cp1252", .western), ("1252", .western), ("windows1251", .cyrillic), ("cp1251", .cyrillic),
   ("1251", .cyrillic), ("koi8r", .koi8), ("utf16", .utf16), ("u16", .utf16),
   ("utf16le", .utf16Little), ("utf16be", .utf16Big)]

/-- The charset of a name; letter case and punctuation do not count. -/
def ofName? (name : Text) : Option Charset :=
  names.lookup (Text.lowerAscii (name.filter Text.isAsciiWord))

/-- The pieces of a content type between its semicolons; a semicolon within
quotes is none.  `quoted` says whether the text begins within quotes. -/
def pieces : Bool → Text → List Text
  | _, [] => [[]]
  | quoted, c :: rest =>
    if c = ';' ∧ ! quoted then [] :: pieces false rest
    else match pieces (if c = '"' then ! quoted else quoted) rest with
      | [] => [[c]]
      | piece :: more => (c :: piece) :: more

/-- A value without the quotes or angle brackets around it. -/
def unquote (t : Text) : Text :=
  match t, t.getLast? with
  | '"' :: _ :: _, some '"' => (t.drop 1).dropLast
  | '<' :: _ :: _, some '>' => (t.drop 1).dropLast
  | _, _ => t

/-- The value of a parameter of the given name, if a piece is one. -/
def parameterValue? (name piece : Text) : Option Text :=
  match Text.cutAt '=' piece with
  | (key, some value) =>
    if Text.lowerAscii (Text.strip key) = name then some (unquote (Text.strip value)) else none
  | (_, none) => none

/-- The charset that a content type names, UTF-8 where it names none that is
known. -/
def ofContentType (contentType : Option Text) : Charset :=
  match contentType.bind fun t => (pieces false t).findSome? (parameterValue? "charset") with
  | some name => (ofName? name).getD .utf8
  | none => .utf8

end Charset

end ClientGen
