/-
# Text as a list of characters

Every text that the generator reads, holds or writes is a list of Unicode
scalar values, so that a statement about a text is an induction over its
characters.  `String` occurs only as the spelling of a constant and at the
outermost layer; the coercion below is the one bridge between the two.

The code of a surrogate is no scalar value, so no text holds one.  Where an
escape denotes such a code that stands alone, the text has the replacement
character in its place (`charOfCode`); texts that keep lone surrogates are not
described here.

The operations here are the few list operations on text that recur in all
layers: joining and cutting at a separator, trimming, and replacing each
maximal run of characters of a class by one fixed text.
-/

namespace ClientGen

/-- A text, as the sequence of its characters. -/
abbrev Text := List Char

instance : Coe String Text := ⟨String.toList⟩

namespace Text

/-- The pieces with `sep` between each two neighbours. -/
def joinWith (sep : Text) : List Text → Text
  | [] => []
  | [piece] => piece
  | piece :: next :: rest => piece ++ sep ++ joinWith sep (next :: rest)

/-- The pieces between the occurrences of `sep`: one more than there are
occurrences, and possibly empty ones. -/
def splitAt (sep : Char) : Text → List Text
  | [] => [[]]
  | c :: rest =>
    if c = sep then [] :: splitAt sep rest
    else match splitAt sep rest with
      | [] => [[c]]
      | piece :: pieces => (c :: piece) :: pieces

/-- The text before the first `sep` and the text after it, if there is one. -/
def cutAt (sep : Char) : Text → Text × Option Text
  | [] => ([], none)
  | c :: rest =>
    if c = sep then ([], some rest)
    else
      let (before, after) := cutAt sep rest
      (c :: before, after)

/-- Drops the longest final stretch of characters in `p`. -/
def dropEndWhile (p : Char → Bool) (t : Text) : Text :=
  (t.reverse.dropWhile p).reverse

/-- Drops the characters in `p` from both ends. -/
def trim (p : Char → Bool) (t : Text) : Text :=
  dropEndWhile p (t.dropWhile p)

/-- Replaces each maximal run of characters in `p` by `filler`; `inRun` says
whether the character before `t` belongs to a run already replaced. -/
def replaceRunsFrom (p : Char → Bool) (filler : Text) : Bool → Text → Text
  | _, [] => []
  | inRun, c :: rest =>
    if p c then (if inRun then [] else filler) ++ replaceRunsFrom p filler true rest
    else c :: replaceRunsFrom p filler false rest

/-- Replaces each maximal run of characters in `p` by `filler`. -/
def replaceRuns (p : Char → Bool) (filler : Text) (t : Text) : Text :=
  replaceRunsFrom p filler false t

/-- Whether `part` occurs in `t` as a contiguous stretch. -/
def hasPart (part : Text) : Text → Bool
  | [] => part.isEmpty
  | c :: rest => part.isPrefixOf (c :: rest) || hasPart part rest

/-- The rest of `t` after `start`, if `t` begins with it. -/
def dropStart? (start : Text) (t : Text) : Option Text :=
  if start.isPrefixOf t then some (t.drop start.length) else none

/-- Whether `n` lies in one of the ranges, ends included. -/
def inRanges (ranges : List (Nat × Nat)) (n : Nat) : Bool :=
  ranges.any fun (low, high) => low ≤ n && n ≤ high

/-- The decimal digits of a natural number, without leading zeros. -/
def ofNat (n : Nat) : Text := Nat.toDigits 10 n

/-- The decimal digits of an integer, after a minus sign if it is negative. -/
def ofInt : Int → Text
  | .ofNat n => ofNat n
  | .negSucc n => '-' :: ofNat (n + 1)

/-- The `width` lowest hexadecimal digits of `n`, most significant first. -/
def hex : Nat → Nat → Text
  | 0, _ => []
  | width + 1, n => hex width (n / 16) ++ [Nat.digitChar (n % 16)]

/-- The value of an ASCII hexadecimal digit of either case. -/
def hexValue? (c : Char) : Option Nat :=
  if '0' ≤ c ∧ c ≤ '9' then some (c.toNat - 48)
  else if 'a' ≤ c ∧ c ≤ 'f' then some (c.toNat - 87)
  else if 'A' ≤ c ∧ c ≤ 'F' then some (c.toNat - 55)
  else none

/-- The value of a sequence of ASCII hexadecimal digits. -/
def hexNumber? (t : Text) : Option Nat :=
  t.foldl (fun acc c => acc.bind fun n => (hexValue? c).map (16 * n + ·)) (some 0)

/-- The character with a given code, and the replacement character where the
code is no Unicode scalar value. -/
def charOfCode (n : Nat) : Char :=
  if n.isValidChar then Char.ofNat n else '\uFFFD'

/-- Whether `c` is an ASCII letter. -/
def isAsciiLetter (c : Char) : Bool :=
  ('a' ≤ c && c ≤ 'z') || ('A' ≤ c && c ≤ 'Z')

/-- Whether `c` is an ASCII digit. -/
def isAsciiDigit (c : Char) : Bool := '0' ≤ c && c ≤ '9'

/-- Whether `c` is an ASCII letter or digit. -/
def isAsciiWord (c : Char) : Bool := isAsciiLetter c || isAsciiDigit c

/-- The order of texts by the code of their first differing character, a
proper beginning first. -/
def le : Text → Text → Bool
  | [], _ => true
  | _ :: _, [] => false
  | a :: as, b :: bs => if a = b then le as bs else decide (a.toNat < b.toNat)

end Text

end ClientGen
