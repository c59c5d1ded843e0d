/-
# The values of documentation

How a triple-quoted literal is read by the rules of the language, given without regard to
how documentation is written here.  The literal ends at the first three quotes in a row of
which none is behind a backslash; its value is the inside with its escapes replaced.

Documentation is read as the text it was written for, without line feeds at its ends.  Once
it is indented this is no longer so: the margin before a line of the literal stands in the
value as well.  A line of the literal ends where the text has one of four characters; the
others that end lines are control characters, and these are given by their codes.
-/
import ClientGen.Proofs.ControlCharacters
import ClientGen.Proofs.Indentation
import ClientGen.Proofs.LiteralValues

namespace ClientGen.Docstring

open Literal (valueFrom)
open Text (Only InLine IsMargin indentFrom indentBy firstLineHasInk endsLine)

variable {margin t written u : Text} {c : Char}

/-! ## Reading -/

/-- Puts characters in front of the inside that was found. -/
def putBefore (u : Text) (found : Option (Text × Text)) : Option (Text × Text) :=
  found.map fun (inside, after) => (u ++ inside, after)

@[simp]
theorem putBefore_nil (found : Option (Text × Text)) : putBefore [] found = found := by
  cases found <;> rfl

@[simp]
theorem putBefore_putBefore (u v : Text) (found : Option (Text × Text)) :
    putBefore u (putBefore v found) = putBefore (u ++ v) found := by
  cases found with
  | none => rfl
  | some pair => exact congrArg (fun front => some (front, pair.2)) (List.append_assoc u v _).symm

/-- A text up to three quotes in a row of which none is behind a backslash, and the text
after them; `escaped` says whether a backslash stands before the text. -/
def inside? : Bool → Text → Option (Text × Text)
  | _, [] => none
  | true, c :: rest => putBefore [c] (inside? false rest)
  | false, '"' :: '"' :: '"' :: rest => some ([], rest)
  | false, c :: rest => putBefore [c] (inside? (c = '\\') rest)

/-- The value of the triple-quoted literal that a text begins with, and the text after
it. -/
def read? : Text → Option (Text × Text)
  | '"' :: '"' :: '"' :: rest => do
    let (inside, after) ← inside? false rest
    let value ← Literal.value? inside
    some (value, after)
  | _ => none

/-- A character other than a backslash that begins no three quotes belongs to the inside. -/
theorem inside?_cons {rest : Text} (noEscape : c ≠ '\\')
    (single : ∀ more, c = '"' → rest = '"' :: '"' :: more → False) :
    inside? false (c :: rest) = putBefore [c] (inside? false rest) := by
  rw [inside?, decide_eq_false noEscape]
  exact single

/-- A backslash and the character behind it belong to the inside. -/
theorem inside?_backslash (c : Char) (rest : Text) :
    inside? false ('\\' :: c :: rest) = putBefore ['\\', c] (inside? false rest) := by
  rw [inside?, decide_eq_true rfl, inside?, putBefore_putBefore]
  · rfl
  · rintro more same
    cases same

/-- Characters other than quotes and backslashes belong to the inside. -/
theorem inside?_append (plain : ∀ c ∈ u, c ≠ '"' ∧ c ≠ '\\') (rest : Text) :
    inside? false (u ++ rest) = putBefore u (inside? false rest) := by
  induction u with
  | nil => exact (putBefore_nil _).symm
  | cons c u ih =>
      obtain ⟨⟨noQuote, noEscape⟩, others⟩ := List.forall_mem_cons.mp plain
      rw [List.cons_append, inside?_cons noEscape (fun _ quote => absurd quote noQuote), ih others,
        putBefore_putBefore]
      rfl

/-- Characters other than backslashes stand for themselves. -/
theorem valueFrom_append_plain (plain : '\\' ∉ u) (rest : Text) :
    valueFrom 0 (u ++ rest) = (valueFrom 0 rest).map (u ++ ·) := by
  induction u with
  | nil => exact Option.map_id'.symm
  | cons c u ih =>
      obtain ⟨first, others⟩ := not_or.mp (List.mem_cons.not.mp plain)
      rw [List.cons_append, valueFrom, if_neg (Ne.symm first), ih others, Option.map_map]
      rfl

/-! ## Lines of documentation -/

/-- Whether `c` is written in documentation as a character that ends a line. -/
def isBreak (c : Char) : Bool := Text.isLineEnd c && ! isControl c

/-- Whether `c` is written in documentation with a character that is not blank. -/
def isInk (c : Char) : Bool := ! Text.isBlank c || isControl c

/-- Whether the first line of a text is not blank in documentation. -/
def lineHasInk : Text → Bool
  | [] => false
  | c :: rest => isInk c || (! isBreak c && lineHasInk rest)

/-- A text with the margin that its documentation gets; `start` says whether a line
begins. -/
def laidOutFrom (margin : Text) : Bool → Text → Text
  | _, [] => []
  | start, c :: rest =>
    (if start && lineHasInk (c :: rest) then margin else []) ++
      c :: laidOutFrom margin (isBreak c) rest

/-- A text with the margin that its documentation gets. -/
def laidOut (margin t : Text) : Text := laidOutFrom margin true t

/-- Whether a line begins decides on the first margin only. -/
theorem laidOutFrom_eq (margin : Text) (start : Bool) (t : Text) :
    laidOutFrom margin start t =
      (if start && lineHasInk t then margin else []) ++ laidOutFrom margin false t := by
  cases t with
  | nil => simp [laidOutFrom, lineHasInk]
  | cons c rest => simp [laidOutFrom]

/-- Characters that end no line of documentation get no margin within. -/
theorem laidOutFrom_append (noBreak : Only (! isBreak ·) u) (rest : Text) :
    laidOutFrom margin false (u ++ rest) = u ++ laidOutFrom margin false rest := by
  induction u with
  | nil => rfl
  | cons c u ih =>
      obtain ⟨first, others⟩ := Text.only_cons_iff.mp noBreak
      rw [List.cons_append, laidOutFrom, (Bool.not_eq_true' _).mp first, ih others]
      rfl

/-- By an empty margin nothing changes. -/
theorem laidOut_nil_margin (t : Text) : laidOut [] t = t := by
  have all : ∀ start, laidOutFrom [] start t = t := by
    induction t with
    | nil => exact fun _ => rfl
    | cons c rest ih =>
        intro start
        rw [laidOutFrom, ih, ite_self]
        rfl
  exact all true

/-- A character that is no control character ends its line if it is a break. -/
theorem endsLine_eq_isBreak (passes : isControl c = false) (rest : Text) :
    endsLine c rest = isBreak c := by
  have noReturn : c ≠ '\r' := by
    rintro rfl
    cases passes
  simp [endsLine, isBreak, passes, noReturn]

/-! ## Escapes -/

/-- An escape and the characters it is written for. -/
structure IsEscape (value escape : Text) : Prop where
  begins : ∃ more, escape = '\\' :: more
  inLine : InLine escape
  inked : Only isInk value
  unbroken : Only (! isBreak ·) value
  nonempty : value ≠ []
  isInside : ∀ rest, inside? false (escape ++ rest) = putBefore escape (inside? false rest)
  decodes : ∀ rest, valueFrom 0 (escape ++ rest) = (valueFrom 0 rest).map (value ++ ·)

/-- Three quotes in a row. -/
theorem isEscape_quotes : IsEscape ['"', '"', '"'] ['\\', '"', '\\', '"', '\\', '"'] where
  begins := ⟨_, rfl⟩
  inLine := by decide
  inked := by decide
  unbroken := by decide
  nonempty := List.cons_ne_nil _ _
  isInside rest := by
    simp only [List.cons_append, List.nil_append, inside?_backslash, putBefore_putBefore]
  decodes rest := by
    have quote : ∀ rest, valueFrom 0 ('\\' :: '"' :: rest) = (valueFrom 0 rest).map ('"' :: ·) :=
      fun rest => Literal.valueFrom_escape (show Literal.escapeValue? (['"'] ++ rest) = _ from rfl)
    simp only [List.cons_append, List.nil_append, quote, Option.map_map]
    rfl

/-- A backslash. -/
theorem isEscape_backslash : IsEscape ['\\'] ['\\', '\\'] where
  begins := ⟨_, rfl⟩
  inLine := by decide
  inked := by decide
  unbroken := by decide
  nonempty := List.cons_ne_nil _ _
  isInside rest := inside?_backslash '\\' rest
  decodes rest := Literal.valueFrom_escape (show Literal.escapeValue? (['\\'] ++ rest) = _ from rfl)

/-- A control character. -/
theorem isEscape_control (control : isControl c = true) :
    IsEscape [c] ('\\' :: 'x' :: Text.hex 2 c.toNat) where
  begins := ⟨_, rfl⟩
  inLine := by
    have digits : InLine (Text.hex 2 c.toNat) := fun x among => by
      simpa using Text.of_mem_hex (! Text.isLineEnd ·) (by decide) among
    exact Text.inLine_cons_iff.mpr ⟨by decide, Text.inLine_cons_iff.mpr ⟨by decide, digits⟩⟩
  inked := by simp [Only, isInk, control]
  unbroken := by simp [Only, isBreak, control]
  nonempty := List.cons_ne_nil _ _
  isInside rest := by
    have digits : ∀ x ∈ Text.hex 2 c.toNat, x ≠ '"' ∧ x ≠ '\\' := fun x among => by
      simpa using Text.of_mem_hex (fun x => x != '"' && x != '\\') (by decide) among
    rw [List.cons_append, List.cons_append, inside?_backslash, inside?_append digits,
      putBefore_putBefore]
    rfl
  decodes rest := by
    have small : c.toNat < 16 ^ 2 := by
      have range : c.toNat < 0x20 ∨ c.toNat = 0x7F := by
        have := control
        simp only [isControl, Bool.or_eq_true, Bool.and_eq_true, decide_eq_true_eq,
          beq_iff_eq] at this
        exact this.imp (·.1.1) id
      omega
    have code : Literal.escapeValue? (('x' :: Text.hex 2 c.toNat) ++ rest) =
        some ([c], ('x' :: Text.hex 2 c.toNat).length) := by
      have byLetter : Literal.escapeValue? ('x' :: (Text.hex 2 c.toNat ++ rest)) =
          Literal.codeValue? 2 (Text.hex 2 c.toNat ++ rest) := rfl
      rw [List.cons_append, byLetter, Literal.codeValue?_hex small, List.length_cons,
        Text.length_hex]
    exact Literal.valueFrom_escape code

/-- How a text is written in documentation: some characters by escapes, the others, which
make no three quotes in a row, as they are. -/
inductive Written : Text → Text → Prop
  | nil : Written [] []
  | escaped {value escape t written : Text} (isEscape : IsEscape value escape)
      (others : Written t written) : Written (value ++ t) (escape ++ written)
  | plain {c : Char} {t written : Text} (passes : isControl c = false) (noEscape : c ≠ '\\')
      (single : ∀ more, c = '"' → t = '"' :: '"' :: more → False)
      (others : Written t written) : Written (c :: t) (c :: written)

/-- So is every text. -/
theorem written_escape (t : Text) : Written t (escape t) := by
  induction t using escape.induct with
  | case1 => exact .nil
  | case2 rest ih => exact .escaped isEscape_quotes ih
  | case3 c rest single ih =>
      rw [escape_cons, escapeChar]
      · split
        · subst c
          exact .escaped isEscape_backslash ih
        · rename_i noEscape
          rw [escapeControl]
          split
          · rename_i control
            exact .escaped (isEscape_control control) ih
          · rename_i passes
            exact .plain (Bool.eq_false_iff.mpr passes) noEscape single ih
      · exact single

/-! ## Indented documentation -/

/-- The ink of a line is seen from the text. -/
theorem Written.firstLineHasInk (h : Written t written) :
    Text.firstLineHasInk written = lineHasInk t := by
  induction h with
  | nil => rfl
  | @escaped value escape t written isEscape others ih =>
      obtain ⟨more, rfl⟩ := isEscape.begins
      obtain ⟨c, value, rfl⟩ := List.exists_cons_of_ne_nil isEscape.nonempty
      have ink := isEscape.inked c List.mem_cons_self
      simp [Text.firstLineHasInk, lineHasInk, ink, show Text.isBlank '\\' = false from rfl]
  | plain passes noEscape single others ih =>
      rw [Text.firstLineHasInk, lineHasInk, ih, endsLine_eq_isBreak passes, isInk, passes,
        Bool.or_false]

/-- A margin has no quotes and no backslashes. -/
theorem plain_margin (h : IsMargin margin) : ∀ c ∈ margin, c ≠ '"' ∧ c ≠ '\\' := by
  intro c among
  have blank := h.1 c among
  constructor
  · rintro rfl
    exact absurd blank (by decide)
  · rintro rfl
    exact absurd blank (by decide)

/-- The value of indented documentation is the text as it is laid out. -/
theorem Written.valueFrom_indentFrom (isMargin : IsMargin margin) (h : Written t written)
    (start : Bool) (rest : Text) :
    valueFrom 0 (indentFrom margin start written ++ rest) =
      (valueFrom 0 rest).map (laidOutFrom margin start t ++ ·) := by
  have front : ∀ (put : Bool) (u : Text), valueFrom 0 ((if put then margin else []) ++ u) =
      (valueFrom 0 u).map ((if put then margin else []) ++ ·) := by
    intro put u
    apply valueFrom_append_plain
    cases put with
    | false => exact List.not_mem_nil
    | true => exact fun among => (plain_margin isMargin _ among).2 rfl
  induction h generalizing start with
  | nil => exact Option.map_id'.symm
  | @escaped value escape t written isEscape others ih =>
      have ink := (Written.escaped isEscape others).firstLineHasInk
      rw [Text.indentFrom_append margin start isEscape.inLine, ink, laidOutFrom_eq,
        laidOutFrom_append isEscape.unbroken, List.append_assoc, front, List.append_assoc,
        isEscape.decodes, ih]
      simp only [Option.map_map, Function.comp_def, List.append_assoc]
  | @plain c t written passes noEscape single others ih =>
      have ink := (Written.plain passes noEscape single others).firstLineHasInk
      rw [indentFrom, ink, laidOutFrom, endsLine_eq_isBreak passes, List.append_assoc, front,
        List.cons_append, valueFrom, if_neg noEscape, ih]
      simp only [Option.map_map, Function.comp_def, List.append_assoc, List.cons_append]

/-- Where indented documentation goes on with a quote, the text does. -/
theorem Written.quote (h : Written t written) {rest more : Text}
    (quote : indentFrom margin false written ++ '\n' :: rest = '"' :: more) :
    ∃ t' written', t = '"' :: t' ∧ Written t' written' ∧
      more = indentFrom margin false written' ++ '\n' :: rest := by
  cases h with
  | nil => cases quote
  | @escaped value escape t written isEscape others =>
      obtain ⟨tail, rfl⟩ := isEscape.begins
      rw [Text.indentFrom_append margin false isEscape.inLine] at quote
      cases quote
  | @plain c t written passes noEscape single others =>
      rw [indentFrom, endsLine_eq_isBreak passes] at quote
      obtain ⟨rfl, behind⟩ := List.cons.inj quote
      exact ⟨t, written, rfl, others, behind.symm⟩

/-- Indented documentation belongs to the inside of its literal. -/
theorem Written.inside?_indentFrom (isMargin : IsMargin margin) (h : Written t written)
    (start : Bool) (rest : Text) :
    inside? false (indentFrom margin start written ++ '\n' :: rest) =
      putBefore (indentFrom margin start written) (inside? false ('\n' :: rest)) := by
  have front : ∀ (put : Bool) (u : Text), inside? false ((if put then margin else []) ++ u) =
      putBefore (if put then margin else []) (inside? false u) := by
    intro put u
    apply inside?_append
    cases put with
    | false => exact fun _ among => absurd among List.not_mem_nil
    | true => exact plain_margin isMargin
  induction h generalizing start with
  | nil => exact (putBefore_nil _).symm
  | @escaped value escape t written isEscape others ih =>
      rw [Text.indentFrom_append margin start isEscape.inLine, List.append_assoc, front,
        List.append_assoc, isEscape.isInside, ih, putBefore_putBefore, putBefore_putBefore,
        List.append_assoc]
  | @plain c t written passes noEscape single others ih =>
      -- a margin does not bring quotes together: it is put behind line ends only
      have apart : ∀ more, c = '"' →
          indentFrom margin (endsLine c written) written ++ '\n' :: rest = '"' :: '"' :: more →
          False := by
        rintro more rfl quotes
        obtain ⟨t', written', rfl, others', second⟩ := others.quote quotes
        obtain ⟨t'', -, rfl, -, -⟩ := others'.quote second.symm
        exact single t'' rfl rfl
      rw [indentFrom, List.append_assoc, front, List.cons_append, inside?_cons noEscape apart, ih,
        putBefore_putBefore, putBefore_putBefore, List.append_assoc]
      rfl

/-! ## Literals -/

/-- What the value of documentation holds: the text without line feeds at its ends. -/
def shown (t : Text) : Text := Text.trim (· = '\n') t

/-- The inside of an indented literal of documentation. -/
def indentedInside (margin t : Text) : Text :=
  '\n' :: (indentBy margin (content t) ++ '\n' :: margin)

/-- An indented literal of documentation, without the margin in front. -/
def indentedLiteral (margin t : Text) : Text :=
  "\"\"\"" ++ (indentedInside margin t ++ "\"\"\"")

/-- Indenting documentation. -/
theorem indentBy_literal (margin t : Text) :
    indentBy margin (literal t) = margin ++ indentedLiteral margin t := by
  have quotes : indentBy margin "\"\"\"" = margin ++ "\"\"\"" :=
    Text.indentBy_body margin (by decide)
  have parts : literal t = "\"\"\"" ++ '\n' :: (content t ++ '\n' :: "\"\"\"") := by
    simp [literal]
  rw [parts, Text.indentBy_append_lineFeed, Text.indentBy_append_lineFeed, quotes]
  simp [indentedLiteral, indentedInside]

/-- The inside of an indented literal is found up to its closing quotes. -/
theorem inside?_indentedInside (isMargin : IsMargin margin) (t rest : Text) :
    inside? false (indentedInside margin t ++ '"' :: '"' :: '"' :: rest) =
      some (indentedInside margin t, rest) := by
  have feed : ∀ more, inside? false ('\n' :: more) = putBefore ['\n'] (inside? false more) :=
    fun more => inside?_cons (by decide) fun _ quote => by cases quote
  have closing : inside? false (margin ++ '"' :: '"' :: '"' :: rest) = some (margin, rest) := by
    rw [inside?_append (plain_margin isMargin), inside?]
    exact congrArg (fun front => some (front, rest)) (List.append_nil margin)
  have written := content_eq t ▸ written_escape (shown t)
  rw [indentedInside, Text.indentBy_eq_indentFrom, List.cons_append, feed, List.append_assoc,
    List.cons_append, written.inside?_indentFrom isMargin, feed, closing]
  rfl

/-- The value of an indented literal: the text as it is laid out, on lines of its own. -/
theorem value?_indentedInside (isMargin : IsMargin margin) (t : Text) :
    Literal.value? (indentedInside margin t) =
      some ('\n' :: (laidOut margin (shown t) ++ '\n' :: margin)) := by
  have feed : ∀ more, valueFrom 0 ('\n' :: more) = (valueFrom 0 more).map ('\n' :: ·) :=
    fun _ => rfl
  have closing : valueFrom 0 margin = some margin := by
    have whole := valueFrom_append_plain (fun among => (plain_margin isMargin _ among).2 rfl) []
    rwa [List.append_nil, valueFrom, Option.map_some, List.append_nil] at whole
  have written := content_eq t ▸ written_escape (shown t)
  rw [Literal.value?, indentedInside, Text.indentBy_eq_indentFrom, feed,
    written.valueFrom_indentFrom isMargin, feed, closing]
  rfl

/-- An indented literal is read as the text as it is laid out, whatever follows. -/
theorem read?_indentedLiteral (isMargin : IsMargin margin) (t rest : Text) :
    read? (indentedLiteral margin t ++ rest) =
      some ('\n' :: (laidOut margin (shown t) ++ '\n' :: margin), rest) := by
  have written : indentedLiteral margin t ++ rest =
      '"' :: '"' :: '"' :: (indentedInside margin t ++ '"' :: '"' :: '"' :: rest) := by
    simp [indentedLiteral]
  rw [written, read?, inside?_indentedInside isMargin]
  simp only [Option.bind_eq_bind, Option.bind_some, value?_indentedInside isMargin]

/-- Documentation is a decodable form of its text.  The literal begins with three quotes and
a line feed; whatever follows, reading it finds the first three quotes in a row of which
none is behind a backslash at its very end; and its value is the text without line feeds at
its ends, on lines of its own.  The literal is source text, and has no carriage return that
could be read as another character.  So documentation is the same for two texts only where
these differ in nothing but line feeds at their ends. -/
theorem literal_decodes (t : Text) :
    ∃ inside, literal t = "\"\"\"" ++ inside ++ "\"\"\"" ∧ inside.head? = some '\n' ∧
      (∀ rest, inside? false (inside ++ "\"\"\"" ++ rest) = some (inside, rest)) ∧
      Literal.value? inside = some ("\n" ++ Text.trim (· = '\n') t ++ "\n") ∧
      Only Text.isSourceChar (literal t) ∧ Text.unifyNewlines (literal t) = literal t ∧
      ∀ u, literal u = literal t ↔ Text.trim (· = '\n') u = Text.trim (· = '\n') t := by
  have none : IsMargin [] := ⟨by decide, by decide⟩
  have written : ∀ t, literal t = "\"\"\"" ++ indentedInside [] t ++ "\"\"\"" := by
    intro t
    have same := indentBy_literal [] t
    rw [Text.indentBy_eq_indentFrom, Text.indentFrom_nil_margin] at same
    simpa [indentedLiteral] using same
  have value : ∀ t, Literal.value? (indentedInside [] t) =
      some ("\n" ++ Text.trim (· = '\n') t ++ "\n") := by
    intro t
    rw [value?_indentedInside none, laidOut_nil_margin]
    rfl
  have noReturn : '\r' ∉ literal t := (only_literal t).not_mem (by decide)
  refine ⟨indentedInside [] t, written t, rfl, ?_, value t, only_literal t,
    Text.unifyNewlines_eq_self noReturn, fun u => ⟨?_, ?_⟩⟩
  · intro rest
    rw [List.append_assoc]
    exact inside?_indentedInside none t rest
  · intro same
    rw [written, written, List.append_left_inj, List.append_right_inj] at same
    have values := value u
    rw [same, value t] at values
    simpa using (Option.some.inj values).symm
  · intro same
    rw [literal, literal, content_eq, content_eq, same]

end ClientGen.Docstring
