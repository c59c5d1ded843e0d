/-
# Upper and lower case

Case mapping character by character, by the tables of `CaseTable`.  The upper
case of a character may be several characters, and the lower case of one is.
The mapping takes no context into account, so the lower case of a final capital
sigma is the ordinary small sigma.
-/
import ClientGen.Text.Basic
import ClientGen.Text.CaseTable

namespace ClientGen.Text

/-- Where the first row that covers `n` maps it, or `n` itself. -/
def mapByRows (rows : List (Nat × Nat × Nat × Int)) (n : Nat) : Nat :=
  match rows.find? fun (first, last, step, _) =>
      first ≤ n && n ≤ last && (n - first) % step == 0 with
  | some (_, _, _, shift) => (Int.ofNat n + shift).toNat
  | none => n

/-- The upper case of a character. -/
def upperChar (c : Char) : Text :=
  let n := c.toNat
  if n < 0x80 then [if 'a' ≤ c ∧ c ≤ 'z' then Char.ofNat (n - 32) else c]
  else match upperExpansions.lookup n with
    | some codes => codes.map charOfCode
    | none => [charOfCode (mapByRows upperRows n)]

/-- The lower case of a character. -/
def lowerChar (c : Char) : Text :=
  let n := c.toNat
  if n < 0x80 then [if 'A' ≤ c ∧ c ≤ 'Z' then Char.ofNat (n + 32) else c]
  else if n = 0x130 then ['i', '\u0307']
  else [charOfCode (mapByRows lowerRows n)]

/-- The upper case of a text. -/
def upper (t : Text) : Text := t.flatMap upperChar

/-- The lower case of a text. -/
def lower (t : Text) : Text := t.flatMap lowerChar

/-- The lower case of the ASCII letters alone; other characters stay. -/
def lowerAscii (t : Text) : Text :=
  t.map fun c => if 'A' ≤ c ∧ c ≤ 'Z' then Char.ofNat (c.toNat + 32) else c

end ClientGen.Text
