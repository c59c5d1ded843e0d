/-
# Literals are read as one piece

A text of the document that reaches generated code as a string literal is read as
one piece by the rules of the language, whatever the text is: no quote, backslash
or line end in it can end the literal early or leave it open.

A literal holds printable characters only, so neither indentation nor the
replacement of tabs finds anything in it.
-/
import ClientGen.Proofs.Lexis
import ClientGen.Source.Literal

namespace ClientGen

namespace Text

/-- A printable character does not end a line. -/
theorem isLineEnd_eq_false_of_isPrintable {c : Char} (h : isPrintable c = true) :
    isLineEnd c = false :=
  isLineEnd_eq_false_of isPrintable (by decide +kernel) h

/-- A text of printable characters is within a line. -/
theorem Only.inLine {t : Text} (h : Only isPrintable t) : InLine t :=
  fun c among => isLineEnd_eq_false_of_isPrintable (h c among)

end Text

namespace Literal

open Lexis

/-- The quote of a literal as the reader knows it. -/
def quoteOf (t : Text) : Quote := if t.elem '\'' && ! t.elem '"' then .double else .single

/-- The quote of a literal is one of the two. -/
theorem quoteFor_eq (t : Text) : quoteFor t = (quoteOf t).char := by
  rw [quoteFor, quoteOf]
  split <;> rfl

theorem isPrintable_quote (quote : Quote) : Text.isPrintable quote.char = true := by
  cases quote <;> decide

/-- What a character becomes within a literal: itself, or a backslash, a printable
character and hexadecimal digits, of which there may be none. -/
theorem encodeChar_cases (quote : Quote) (c : Char) :
    (encodeChar quote.char c = [c] ∧ Text.isPrintable c = true ∧
        c ≠ quote.char ∧ c ≠ '\n' ∧ c ≠ '\\') ∨
      ∃ d width n, encodeChar quote.char c = '\\' :: d :: Text.hex width n ∧
        Text.isPrintable d = true := by
  rw [encodeChar]
  split
  · rename_i escaped
    refine Or.inr ⟨c, 0, 0, rfl, ?_⟩
    rcases escaped with rfl | rfl
    · exact isPrintable_quote quote
    · decide
  · rename_i unescaped
    obtain ⟨noQuote, noEscape⟩ := not_or.mp unescaped
    split
    · exact Or.inr ⟨'n', 0, 0, rfl, by decide⟩
    · rename_i noFeed
      split
      · exact Or.inr ⟨'r', 0, 0, rfl, by decide⟩
      · split
        · exact Or.inr ⟨'t', 0, 0, rfl, by decide⟩
        · split
          · rename_i printable
            exact Or.inl ⟨rfl, printable, noQuote, noFeed, noEscape⟩
          · rw [codeEscape]
            split
            · exact Or.inr ⟨'x', 2, _, rfl, by decide⟩
            · split
              · exact Or.inr ⟨'u', 4, _, rfl, by decide⟩
              · exact Or.inr ⟨'U', 8, _, rfl, by decide⟩

/-- What a character becomes within a literal is printable. -/
theorem isPrintable_of_mem_encodeChar {quote : Quote} {c x : Char}
    (h : x ∈ encodeChar quote.char c) : Text.isPrintable x = true := by
  rcases encodeChar_cases quote c with ⟨stays, printable, -⟩ | ⟨d, width, n, escapes, printable⟩
  · rw [stays] at h
    rw [List.mem_singleton.mp h]
    exact printable
  · rw [escapes] at h
    rcases List.mem_cons.mp h with rfl | h
    · decide
    · rcases List.mem_cons.mp h with rfl | inDigits
      · exact printable
      · exact Text.of_mem_hex Text.isPrintable (by decide) inDigits

/-- A literal holds printable characters only. -/
theorem only_encode (t : Text) : Text.Only Text.isPrintable (encode t) := by
  intro c h
  simp only [encode, quoteFor_eq] at h
  rcases List.mem_append.mp h with inFront | isQuote
  · rcases List.mem_cons.mp inFront with rfl | inside
    · exact isPrintable_quote _
    · obtain ⟨d, -, hd⟩ := List.mem_flatMap.mp inside
      exact isPrintable_of_mem_encodeChar hd
  · rw [List.mem_singleton.mp isQuote]
    exact isPrintable_quote _

/-- Characters that are no quote, backslash or line feed are read within a
literal. -/
theorem reads_line {quote : Quote} {t : Text}
    (h : ∀ c ∈ t, c ≠ quote.char ∧ c ≠ '\n' ∧ c ≠ '\\') :
    Reads (.line quote) t (.line quote) [] := by
  induction t with
  | nil => exact Reads.nil _
  | cons c rest ih =>
      obtain ⟨⟨noQuote, noFeed, noEscape⟩, others⟩ := List.forall_mem_cons.mp h
      have hstep : step (.line quote) c = some (.line quote, []) := by
        rw [step, lineStep, if_neg noQuote, if_neg noFeed, if_neg noEscape]
      exact Reads.silent hstep (ih others)

/-- Hexadecimal digits are read within a literal. -/
theorem reads_hex (quote : Quote) (width n : Nat) :
    Reads (.line quote) (Text.hex width n) (.line quote) [] := by
  have all : ∀ d < 16, Nat.digitChar d ≠ quote.char ∧ Nat.digitChar d ≠ '\n' ∧
      Nat.digitChar d ≠ '\\' := by
    cases quote <;> decide
  apply reads_line
  intro c hc
  obtain ⟨d, small, rfl⟩ := Text.mem_hex hc
  exact all d small

/-- What a character becomes is read within a literal. -/
theorem reads_encodeChar (quote : Quote) (c : Char) :
    Reads (.line quote) (encodeChar quote.char c) (.line quote) [] := by
  rcases encodeChar_cases quote c with ⟨stays, -, inLine⟩ | ⟨d, width, n, escapes, -⟩
  · rw [stays]
    apply reads_line
    intro x hx
    rw [List.mem_singleton.mp hx]
    exact inLine
  · have opens : step (.line quote) '\\' = some (.lineEscape quote, []) := by
      cases quote <;> rfl
    have takes : step (.lineEscape quote) d = some (.line quote, []) := rfl
    rw [escapes]
    exact Reads.silent opens (Reads.silent takes (reads_hex quote width n))

/-- What a character becomes does not begin with the quote. -/
theorem encodeChar_eq_cons (quote : Quote) (c : Char) :
    ∃ d more, encodeChar quote.char c = d :: more ∧ d ≠ quote.char := by
  rcases encodeChar_cases quote c with ⟨stays, -, noQuote, -⟩ | ⟨d, width, n, escapes, -⟩
  · exact ⟨c, [], stays, noQuote⟩
  · have backslash : '\\' ≠ quote.char := by cases quote <;> decide
    exact ⟨'\\', d :: Text.hex width n, escapes, backslash⟩

/-- The inside of a literal is read within it. -/
theorem reads_flatMap_encodeChar (quote : Quote) (t : Text) :
    Reads (.line quote) (t.flatMap (encodeChar quote.char)) (.line quote) [] := by
  induction t with
  | nil => exact Reads.nil _
  | cons c rest ih =>
      rw [List.flatMap_cons]
      exact (reads_encodeChar quote c).append ih

/-- A literal of a text that is not empty is read as one piece. -/
theorem readsAs_encode {t : Text} (nonempty : t ≠ []) : ReadsAs (encode t) [literalMark] := by
  obtain ⟨c, rest, rfl⟩ := List.exists_cons_of_ne_nil nonempty
  obtain ⟨d, more, starts, noQuote⟩ := encodeChar_eq_cons (quoteOf (c :: rest)) c
  have opens : step .code (quoteOf (c :: rest)).char =
      some (.opened (quoteOf (c :: rest)), [literalMark]) := by
    cases quoteOf (c :: rest) <;> rfl
  have inside := reads_flatMap_encodeChar (quoteOf (c :: rest)) (c :: rest)
  rw [List.flatMap_cons, starts, List.cons_append] at inside
  obtain ⟨next, left, later, first, others, nothing⟩ := reads_cons_iff.mp inside
  have afterQuote : step (.opened (quoteOf (c :: rest))) d = some (next, left) := by
    rw [step, if_neg noQuote]
    exact first
  have closes : step (.line (quoteOf (c :: rest))) (quoteOf (c :: rest)).char =
      some (.code, []) := by
    rw [step, lineStep, if_pos rfl]
  have whole := Reads.cons opens ((Reads.cons afterQuote others).append
    (Reads.silent closes (Reads.nil .code)))
  rw [← nothing] at whole
  simpa only [ReadsAs, encode, quoteFor_eq, List.flatMap_cons, starts, List.cons_append,
    List.append_nil, List.nil_append] using whole

/-- A literal and a plain character behind it are read as the mark and the
character. -/
theorem readsAs_encode_append (t : Text) {c : Char} (plain : isPlain c = true) :
    ReadsAs (encode t ++ [c]) [literalMark, c] := by
  by_cases empty : t = []
  · subst empty
    have quotes : Reads .code (encode []) (.closed .single) [literalMark] := rfl
    have after : Reads (.closed .single) [c] .code [c] :=
      Reads.cons (step_closed_of_isPlain .single plain) (Reads.nil .code)
    exact quotes.append after
  · exact (readsAs_encode empty).append (readsAs_singleton plain)

end Literal

end ClientGen
