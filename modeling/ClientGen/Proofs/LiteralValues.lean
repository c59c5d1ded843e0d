/-
# The values of string literals

How a string literal is read by the rules of the language, given without regard to how
literals are written here.  The literal ends at the first quote of its kind that is not
behind a backslash; what is in between is its text with each escape replaced by what it
stands for.  An escape is a letter, a code of two, four or eight hexadecimal digits, one of
up to three octal digits, or a line end, which stands for nothing; any other backslash stands
for itself.

The literal that is written for a text is read as this text, whatever the text is and
whatever follows, except that no quote may follow the literal of the empty text.
-/
import ClientGen.Proofs.Literals
import Mathlib.Algebra.GroupWithZero.Nat

namespace ClientGen

namespace Text

/-! ## Hexadecimal digits -/

/-- A hexadecimal number and one more digit. -/
theorem hexNumber?_concat (t : Text) (c : Char) : hexNumber? (t ++ [c]) =
    (hexNumber? t).bind fun n => (hexValue? c).map (16 * n + ·) := by
  rw [hexNumber?, List.foldl_append]
  rfl

theorem hexValue?_digitChar : ∀ d < 16, hexValue? (Nat.digitChar d) = some d := by
  decide

/-- The hexadecimal digits of a number are as many as asked for. -/
@[simp]
theorem length_hex (width n : Nat) : (hex width n).length = width := by
  induction width generalizing n with
  | zero => rfl
  | succ width ih => rw [hex, List.length_append, ih, List.length_singleton]

/-- The hexadecimal digits of a number are read as what is left of it in so many digits. -/
theorem hexNumber?_hex (width n : Nat) : hexNumber? (hex width n) = some (n % 16 ^ width) := by
  induction width generalizing n with
  | zero => rw [Nat.pow_zero, Nat.mod_one]; rfl
  | succ width ih =>
      have last := hexValue?_digitChar (n % 16) (Nat.mod_lt n (by decide))
      have value : 16 * (n / 16 % 16 ^ width) + n % 16 = n % 16 ^ (width + 1) := by
        rw [Nat.pow_succ', Nat.mod_mul, Nat.add_comm]
      rw [hex, hexNumber?_concat, ih, last, ← value]
      rfl

end Text

namespace Literal

/-! ## Reading -/

/-- The character that a letter behind a backslash stands for. -/
def letterValue? (c : Char) : Option Char :=
  if c = '\\' ∨ c = '\'' ∨ c = '"' then some c
  else if c = 'a' then some '\x07'
  else if c = 'b' then some '\x08'
  else if c = 'f' then some '\x0c'
  else if c = 'n' then some '\n'
  else if c = 'r' then some '\r'
  else if c = 't' then some '\t'
  else if c = 'v' then some '\x0b'
  else none

/-- What a code of so many digits at the beginning of a text stands for, with the size of
the digits and the letter before them. -/
def codeValue? (width : Nat) (t : Text) : Option (Text × Nat) :=
  if t.length < width then none
  else
    (Text.hexNumber? (t.take width)).bind fun n =>
      if n.isValidChar then some ([Char.ofNat n], width + 1) else none

/-- Whether `c` is an octal digit. -/
def isOctalDigit (c : Char) : Bool := '0' ≤ c && c ≤ '7'

/-- What the octal digits at the beginning of a text stand for, three at most, with their
number. -/
def octalValue (t : Text) : Text × Nat :=
  let digits := (t.take 3).takeWhile isOctalDigit
  ([Char.ofNat (digits.foldl (fun n c => 8 * n + (c.toNat - 48)) 0)], digits.length)

/-- What the text behind a backslash begins with stands for, with its size.  There is
nothing where a code is cut short or no character has it; names of characters are left
out. -/
def escapeValue? : Text → Option (Text × Nat)
  | [] => none
  | c :: rest =>
    match letterValue? c with
    | some d => some ([d], 1)
    | none =>
      if c = '\n' then some ([], 1)
      else if c = 'x' then codeValue? 2 rest
      else if c = 'u' then codeValue? 4 rest
      else if c = 'U' then codeValue? 8 rest
      else if c = 'N' then none
      else if isOctalDigit c then some (octalValue (c :: rest))
      else some (['\\', c], 1)

/-- The text that the inside of a literal stands for; its first `skip` characters belong to
an escape that was replaced already. -/
def valueFrom : Nat → Text → Option Text
  | _, [] => some []
  | skip + 1, _ :: rest => valueFrom skip rest
  | 0, c :: rest =>
    if c = '\\' then
      (escapeValue? rest).bind fun (value, size) => (valueFrom size rest).map (value ++ ·)
    else (valueFrom 0 rest).map (c :: ·)

/-- The text that the inside of a literal stands for. -/
def value? (inside : Text) : Option Text := valueFrom 0 inside

/-- A text up to a quote that is not behind a backslash, and the text after the quote;
`escaped` says whether a backslash stands before the text.  No line ends in between, unless
behind a backslash; all line ends are line feeds here. -/
def inside? (quote : Char) : Bool → Text → Option (Text × Text)
  | _, [] => none
  | true, c :: rest => (inside? quote false rest).map (Prod.map (c :: ·) id)
  | false, c :: rest =>
    if c = quote then some ([], rest)
    else if c = '\n' then none
    else (inside? quote (c = '\\') rest).map (Prod.map (c :: ·) id)

/-- The value of the literal in single or double quotes that a text begins with, and the
text after it.  Three quotes begin no such literal. -/
def read? : Text → Option (Text × Text)
  | [] => none
  | quote :: rest =>
    if (quote = '\'' ∨ quote = '"') ∧ rest.take 2 ≠ [quote, quote] then do
      let (inside, after) ← inside? quote false rest
      let value ← value? inside
      some (value, after)
    else none

/-! ## Reading what was written -/

/-- Characters that belong to an escape are passed over. -/
theorem valueFrom_append (skipped rest : Text) :
    valueFrom skipped.length (skipped ++ rest) = valueFrom 0 rest := by
  induction skipped with
  | nil => rfl
  | cons c skipped ih => exact ih

/-- An escape is replaced by what it stands for. -/
theorem valueFrom_escape {escape value rest : Text}
    (h : escapeValue? (escape ++ rest) = some (value, escape.length)) :
    valueFrom 0 ('\\' :: escape ++ rest) = (valueFrom 0 rest).map (value ++ ·) := by
  rw [List.cons_append, valueFrom, if_pos rfl, h, Option.bind_some]
  dsimp only
  rw [valueFrom_append]

/-- A code stands for the character that has it. -/
theorem codeValue?_hex {width : Nat} {c : Char} (small : c.toNat < 16 ^ width) (rest : Text) :
    codeValue? width (Text.hex width c.toNat ++ rest) = some ([c], width + 1) := by
  have long : ¬ (Text.hex width c.toNat ++ rest).length < width := by simp
  have digits : (Text.hex width c.toNat ++ rest).take width = Text.hex width c.toNat := by
    rw [List.take_append_of_le_length (by simp), List.take_of_length_le (by simp)]
  have valid : c.toNat.isValidChar := c.valid
  rw [codeValue?, if_neg long, digits, Text.hexNumber?_hex, Nat.mod_eq_of_lt small,
    Option.bind_some, if_pos valid, Char.ofNat_toNat]

/-- The code of a character is replaced by the character. -/
theorem valueFrom_codeEscape (c : Char) (rest : Text) :
    valueFrom 0 (codeEscape c.toNat ++ rest) = (valueFrom 0 rest).map (c :: ·) := by
  have bound : c.toNat < 16 ^ 8 := by
    have valid : c.toNat < 0xD800 ∨ 0xDFFF < c.toNat ∧ c.toNat < 0x110000 := c.valid
    omega
  have code : ∀ {letter : Char} {width : Nat},
      (∀ t : Text, escapeValue? (letter :: t) = codeValue? width t) → c.toNat < 16 ^ width →
      valueFrom 0 ('\\' :: (letter :: Text.hex width c.toNat) ++ rest) =
        (valueFrom 0 rest).map (c :: ·) := by
    intro letter width byLetter small
    have escape : escapeValue? ((letter :: Text.hex width c.toNat) ++ rest) =
        some ([c], (letter :: Text.hex width c.toNat).length) := by
      rw [List.cons_append, byLetter, codeValue?_hex small, List.length_cons, Text.length_hex]
    exact valueFrom_escape escape
  rw [codeEscape]
  split
  · exact code (fun _ => rfl) ‹_›
  · split
    · exact code (fun _ => rfl) ‹_›
    · exact code (fun _ => rfl) bound

/-- What a character becomes within a literal stands for it. -/
theorem valueFrom_encodeChar (quote : Lexis.Quote) (c : Char) (rest : Text) :
    valueFrom 0 (encodeChar quote.char c ++ rest) = (valueFrom 0 rest).map (c :: ·) := by
  have letter : ∀ {x : Char}, letterValue? x = some c →
      valueFrom 0 ('\\' :: [x] ++ rest) = (valueFrom 0 rest).map (c :: ·) := by
    intro x value
    have escape : escapeValue? ([x] ++ rest) = some ([c], [x].length) := by
      rw [List.singleton_append, escapeValue?, value]
      rfl
    exact valueFrom_escape escape
  rw [encodeChar]
  split
  · rename_i escaped
    apply letter
    rcases escaped with rfl | rfl
    · cases quote <;> rfl
    · rfl
  · rename_i unescaped
    split
    · subst c
      exact letter rfl
    · split
      · subst c
        exact letter rfl
      · split
        · subst c
          exact letter rfl
        · split
          · rw [List.singleton_append, valueFrom, if_neg (not_or.mp unescaped).2]
          · exact valueFrom_codeEscape c rest

/-- The inside of a literal stands for the text it was written for. -/
theorem value?_flatMap_encodeChar (quote : Lexis.Quote) (t : Text) :
    value? (t.flatMap (encodeChar quote.char)) = some t := by
  induction t with
  | nil => rfl
  | cons c rest ih =>
      rw [value?] at ih
      rw [value?, List.flatMap_cons, valueFrom_encodeChar, ih]
      rfl

/-- Characters that are no quote, line feed or backslash belong to the inside. -/
theorem inside?_append {quote : Char} {t : Text}
    (plain : ∀ c ∈ t, c ≠ quote ∧ c ≠ '\n' ∧ c ≠ '\\') (rest : Text) :
    inside? quote false (t ++ rest) = (inside? quote false rest).map (Prod.map (t ++ ·) id) := by
  induction t with
  | nil =>
      rw [List.nil_append]
      cases inside? quote false rest <;> rfl
  | cons c t ih =>
      obtain ⟨⟨noQuote, noFeed, noEscape⟩, others⟩ := List.forall_mem_cons.mp plain
      rw [List.cons_append, inside?, if_neg noQuote, if_neg noFeed, decide_eq_false noEscape,
        ih others]
      cases inside? quote false rest <;> rfl

/-- What a character becomes belongs to the inside. -/
theorem inside?_encodeChar (quote : Lexis.Quote) (c : Char) (rest : Text) :
    inside? quote.char false (encodeChar quote.char c ++ rest) =
      (inside? quote.char false rest).map (Prod.map (encodeChar quote.char c ++ ·) id) := by
  rcases encodeChar_cases quote c with
    ⟨stays, -, noQuote, noFeed, noEscape⟩ | ⟨d, width, n, escapes, -⟩
  · rw [stays]
    exact inside?_append (List.forall_mem_singleton.mpr ⟨noQuote, noFeed, noEscape⟩) rest
  · have digits : ∀ x ∈ Text.hex width n, x ≠ quote.char ∧ x ≠ '\n' ∧ x ≠ '\\' := by
      intro x among
      have plain := Text.of_mem_hex
        (fun x => x != '\'' && x != '"' && x != '\n' && x != '\\') (by decide) among
      cases quote <;> simp_all [Lexis.Quote.char]
    have escape : ¬ '\\' = quote.char := by cases quote <;> decide
    rw [escapes, List.cons_append, List.cons_append, inside?, if_neg escape,
      if_neg (by decide), decide_eq_true rfl, inside?, inside?_append digits]
    cases inside? quote.char false rest <;> rfl

/-- The inside of a literal is found up to its closing quote. -/
theorem inside?_flatMap_encodeChar (quote : Lexis.Quote) (t rest : Text) :
    inside? quote.char false (t.flatMap (encodeChar quote.char) ++ quote.char :: rest) =
      some (t.flatMap (encodeChar quote.char), rest) := by
  induction t with
  | nil => rw [List.flatMap_nil, List.nil_append, inside?, if_pos rfl]
  | cons c t ih =>
      rw [List.flatMap_cons, List.append_assoc, inside?_encodeChar, ih]
      rfl

/-- The literal of a text is read as the text. -/
theorem read?_encode_append (t : Text) {rest : Text}
    (apart : rest.head? ≠ some '\'' ∧ rest.head? ≠ some '"') :
    read? (encode t ++ rest) = some (t, rest) := by
  have written : encode t ++ rest = (quoteOf t).char ::
      (t.flatMap (encodeChar (quoteOf t).char) ++ (quoteOf t).char :: rest) := by
    simp [encode, quoteFor_eq]
  have opens : (quoteOf t).char = '\'' ∨ (quoteOf t).char = '"' := by
    cases quoteOf t
    · exact Or.inl rfl
    · exact Or.inr rfl
  have single : (t.flatMap (encodeChar (quoteOf t).char) ++ (quoteOf t).char :: rest).take 2 ≠
      [(quoteOf t).char, (quoteOf t).char] := by
    intro three
    cases t with
    | nil =>
        have next : rest.head? = some '\'' := by
          cases rest with
          | nil => cases three
          | cons c rest => exact congrArg some (List.cons.inj (List.cons.inj three).2).1
        exact apart.1 next
    | cons c t =>
        obtain ⟨d, more, starts, noQuote⟩ := encodeChar_eq_cons (quoteOf (c :: t)) c
        rw [List.flatMap_cons, starts] at three
        exact noQuote (List.cons.inj three).1
  rw [written, read?, if_pos ⟨opens, single⟩, inside?_flatMap_encodeChar]
  simp only [Option.bind_eq_bind, Option.bind_some, value?_flatMap_encodeChar]

end Literal

end ClientGen
