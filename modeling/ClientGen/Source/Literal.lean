/-
# String literals

How a text is written as a string literal of the generated Python source.  The
literal is in single quotes, or in double quotes where the text has a single
quote and no double one.  The quote and the backslash are escaped with a
backslash, line feed, carriage return and tab have a letter, and every other
character that is not printable is given by its code in two, four or eight
hexadecimal digits.
-/
import ClientGen.Text.Printable

namespace ClientGen.Literal

/-- The quote that a literal for `t` is written in. -/
def quoteFor (t : Text) : Char :=
  if t.elem '\'' && ! t.elem '"' then '"' else '\''

/-- The escape of a character by its code. -/
def codeEscape (n : Nat) : Text :=
  if n < 0x100 then "\\x" ++ Text.hex 2 n
  else if n < 0x10000 then "\\u" ++ Text.hex 4 n
  else "\\U" ++ Text.hex 8 n

/-- How a character is written within a literal in the given quotes. -/
def encodeChar (quote c : Char) : Text :=
  if c = quote ∨ c = '\\' then ['\\', c]
  else if c = '\n' then "\\n"
  else if c = '\r' then "\\r"
  else if c = '\t' then "\\t"
  else if Text.isPrintable c then [c]
  else codeEscape c.toNat

/-- The literal of a text. -/
def encode (t : Text) : Text :=
  let quote := quoteFor t
  quote :: t.flatMap (encodeChar quote) ++ [quote]

end ClientGen.Literal
