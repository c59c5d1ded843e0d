/-
# Documentation strings

A documentation text becomes a triple-quoted literal on lines of its own.
Backslashes are doubled, three quotes in a row are escaped one by one, and
control characters other than line feed and tab are given by their codes, so no
text can end the literal early.  Line feeds at the ends are dropped.
-/
import ClientGen.Text.Lines

namespace ClientGen.Docstring

/-- Whether `c` is a control character that source text never holds as such. -/
def isControl (c : Char) : Bool :=
  (c.toNat < 0x20 && c != '\n' && c != '\t') || c.toNat == 0x7F

/-- A character with the hexadecimal escape of a control character in its
place. -/
def escapeControl (c : Char) : Text :=
  if isControl c then "\\x" ++ Text.hex 2 c.toNat else [c]

/-- A text with its control characters escaped, line feeds and tabs apart. -/
def escapeControls (t : Text) : Text := t.flatMap escapeControl

/-- A text with its backslashes doubled. -/
def doubleBackslashes (t : Text) : Text :=
  t.flatMap fun c => if c = '\\' then "\\\\" else [c]

/-- A text with each three quotes in a row escaped, from the left. -/
def escapeTripleQuotes : Text → Text
  | [] => []
  | '"' :: '"' :: '"' :: rest => "\\\"\\\"\\\"" ++ escapeTripleQuotes rest
  | c :: rest => c :: escapeTripleQuotes rest

/-- The content of the literal, between its opening and closing lines. -/
def content (t : Text) : Text :=
  Text.trim (· = '\n') (escapeControls (escapeTripleQuotes (doubleBackslashes t)))

/-- The literal of a documentation text. -/
def literal (t : Text) : Text := "\"\"\"\n" ++ content t ++ "\n\"\"\""

end ClientGen.Docstring
