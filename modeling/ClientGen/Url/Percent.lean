/-
# Percent-encoding

Each part of a URL has its own set of characters that stand for themselves; the
others are given by the octets of their UTF-8 form.  An escape that is already
there stays as it is, and so does a percent sign that starts none, except where
the percent sign is not in the set.
-/
import ClientGen.Text.Utf8

namespace ClientGen.Percent

/-- The upper-case hexadecimal digits of an octet, after a percent sign. -/
def escape (octet : UInt8) : Text :=
  let digit (n : Nat) : Char := if n < 10 then Char.ofNat (48 + n) else Char.ofNat (55 + n)
  ['%', digit (octet.toNat / 16), digit (octet.toNat % 16)]

/-- A character that is kept or escaped. -/
def encodeChar (isSafe : Char → Bool) (c : Char) : Text :=
  if isSafe c then [c] else (Utf8.encodeChar c).flatMap escape

/-- A text with all characters escaped that are not safe, escapes already there
apart. -/
def encode (isSafe : Char → Bool) : Text → Text
  | [] => []
  | '%' :: a :: b :: rest =>
    if (Text.hexValue? a).isSome && (Text.hexValue? b).isSome then
      '%' :: a :: b :: encode isSafe rest
    else encodeChar isSafe '%' ++ encode isSafe (a :: b :: rest)
  | c :: rest => encodeChar isSafe c ++ encode isSafe rest

/-- Whether `c` is an ASCII character with a graphic form, or one of the given
exceptions from that. -/
def graphicExcept (exceptions : Text) (c : Char) : Bool :=
  0x20 ≤ c.toNat && c.toNat < 0x7F && ! exceptions.elem c

/-- What stands for itself in a fragment. -/
def fragmentSafe : Char → Bool := graphicExcept " \"<>`"

/-- What stands for itself in a query. -/
def querySafe : Char → Bool := graphicExcept " \"#<>"

/-- What stands for itself in a path. -/
def pathSafe : Char → Bool := graphicExcept " \"#<>?`\x7b\x7d"

/-- What stands for itself in the user part of an authority. -/
def userSafe : Char → Bool := graphicExcept " \"#<>?`\x7b\x7d/;=@[\\]^|"

/-- What stands for itself in a host name. -/
def hostSafe (c : Char) : Bool :=
  Text.isAsciiWord c || ("-._~!$&'()*+,;=\"`\x7b\x7d%|\\" : Text).elem c

end ClientGen.Percent
