/-
# Blanks and lines

The blank characters are those that trimming removes and that make a line blank:
the Unicode white space, and the four ASCII information separators with it.

A line ends at any of ten characters, and the pair carriage return and line
feed ends it once.  `lines` keeps the ends, so that its pieces concatenate to
the text (`flatten_lines`); `lineBodies` drops them.
-/
import ClientGen.Text.Basic

namespace ClientGen.Text

/-! ## Blanks -/

/-- The blank characters, as ranges of codes. -/
def blankRanges : List (Nat × Nat) :=
  [(0x09, 0x0D), (0x1C, 0x20), (0x85, 0x85), (0xA0, 0xA0), (0x1680, 0x1680), (0x2000, 0x200A),
   (0x2028, 0x2029), (0x202F, 0x202F), (0x205F, 0x205F), (0x3000, 0x3000)]

/-- Whether `c` is blank. -/
def isBlank (c : Char) : Bool := inRanges blankRanges c.toNat

/-- Removes the blank characters at both ends. -/
def strip (t : Text) : Text := trim isBlank t

/-! ## Lines -/

/-- Whether `c` ends a line. -/
def isLineEnd (c : Char) : Bool :=
  c = '\n' || c = '\r' || c = '\x0b' || c = '\x0c' || c = '\x1c' || c = '\x1d' || c = '\x1e' ||
    c = '\u0085' || c = '\u2028' || c = '\u2029'

/-- Whether `c`, followed by `rest`, is the last character of its line: a
carriage return before a line feed is not. -/
def endsLine (c : Char) (rest : Text) : Bool :=
  isLineEnd c && !(c = '\r' && rest.head? = some '\n')

/-- The lines of a text, each with the characters that end it. -/
def lines : Text → List Text
  | [] => []
  | c :: rest =>
    if endsLine c rest then [c] :: lines rest
    else match lines rest with
      | [] => [[c]]
      | line :: more => (c :: line) :: more

/-- The lines of a text without the characters that end them. -/
def lineBodies (t : Text) : List Text :=
  (lines t).map (dropEndWhile isLineEnd)

/-- Whether some character of the text is not blank. -/
def hasInk (t : Text) : Bool := t.any (! isBlank ·)

/-- Puts `margin` before every line that is not blank. -/
def indentBy (margin : Text) (t : Text) : Text :=
  ((lines t).map fun line => if hasInk line then margin ++ line else line).flatten

/-- Reads every carriage return, with a line feed after it or not, as one line
feed. -/
def unifyNewlines : Text → Text
  | [] => []
  | '\r' :: '\n' :: rest => '\n' :: unifyNewlines rest
  | c :: rest => (if c = '\r' then '\n' else c) :: unifyNewlines rest

/-- Cutting a text into lines loses no character. -/
theorem flatten_lines (t : Text) : (lines t).flatten = t := by
  induction t with
  | nil => rfl
  | cons c rest ih =>
    rw [lines]
    split
    · simp [ih]
    · split
      · rename_i h
        rw [h] at ih
        simp at ih
        simp [← ih]
      · rename_i line more h
        rw [h] at ih
        simp at ih
        simp [← ih]

end ClientGen.Text
