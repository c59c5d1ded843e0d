/-
# Identifiers

Names taken from a document become identifiers of the generated source in two
steps.  Sanitising keeps the ASCII letters and digits and puts one underscore
for whatever stands between two of their runs.  Completing then makes a
sanitised name acceptable: a prefix before a leading digit, an underscore after
a reserved word.

Sanitising is total, and its result is empty exactly for a text without ASCII
letters and digits; its callers supply a name of their own then.
-/
import ClientGen.Text.Digit

namespace ClientGen.Identifier

/-- Whether `c` may stand in an identifier. -/
def isWordChar (c : Char) : Bool := Text.isAsciiWord c || c = '_'

/-- Whether `c` is the underscore. -/
def isUnderscore (c : Char) : Bool := c = '_'

/-- The sanitised form of a text: the runs of its ASCII letters and digits,
joined by single underscores. -/
def sanitize (raw : Text) : Text :=
  Text.replaceRuns isUnderscore "_"
    (Text.trim isUnderscore (Text.replaceRuns (! isWordChar ·) "_" raw))

/-- The reserved words of the generated source. -/
def reservedWords : List Text :=
  List.map String.toList
    ["False", "None", "True", "and", "as", "assert", "async", "await", "break", "class",
     "continue", "def", "del", "elif", "else", "except", "finally", "for", "from", "global",
     "if", "import", "in", "is", "lambda", "nonlocal", "not", "or", "pass", "raise", "return",
     "try", "while", "with", "yield"]

/-- Whether a name is a reserved word. -/
def isReserved (name : Text) : Bool := reservedWords.contains name

/-- Whether a name begins with a digit. -/
def startsWithDigit (name : Text) : Bool := name.head?.any Text.isDigit

/-- Makes a sanitised name acceptable: `digitMark` before a leading digit, and an
underscore after a reserved word. -/
def complete (digitMark name : Text) : Text :=
  let marked := if startsWithDigit name then digitMark ++ name else name
  if isReserved marked then marked ++ "_" else marked

end ClientGen.Identifier
