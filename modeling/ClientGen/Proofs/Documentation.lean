/-
# Documentation is read as one piece

Documentation is escaped in three passes: backslashes are doubled, three quotes in
a row are escaped, and control characters are given by their codes.  The passes
amount to a single one that treats each character, and each three quotes in a row,
on its own.  Line feeds at the ends may be dropped before it or after it.

From the single pass it is seen that no text ends its documentation early: each
escape is taken whole, and a quote that is left alone has at most one more beside
it.  The comment at the top of a module is read as one piece too, as it holds no
line feed.
-/
import ClientGen.Proofs.Lexis
import ClientGen.Source.Docstring

namespace ClientGen.Docstring

open Lexis

/-! ## Escaping in a single pass -/

/-- A character as documentation has it. -/
def escapeChar (c : Char) : Text := if c = '\\' then "\\\\" else escapeControl c

/-- A text as documentation has it. -/
def escape : Text → Text
  | [] => []
  | '"' :: '"' :: '"' :: rest => "\\\"\\\"\\\"" ++ escape rest
  | c :: rest => escapeChar c ++ escape rest

@[simp]
theorem escape_nil : escape [] = [] := rfl

/-- Three quotes in a row are escaped together. -/
theorem escape_quotes (rest : Text) :
    escape ('"' :: '"' :: '"' :: rest) = "\\\"\\\"\\\"" ++ escape rest := rfl

/-- Elsewhere a character is escaped on its own. -/
theorem escape_cons {c : Char} {rest : Text}
    (single : ∀ more, c = '"' → rest = '"' :: '"' :: more → False) :
    escape (c :: rest) = escapeChar c ++ escape rest := by
  rw [escape]
  exact single

/-- Doubling backslashes neither makes nor removes a quote at the start. -/
theorem quote_of_doubleBackslashes {t u : Text} (h : doubleBackslashes t = '"' :: u) :
    ∃ rest, t = '"' :: rest ∧ u = doubleBackslashes rest := by
  cases t with
  | nil => cases h
  | cons c rest =>
      rw [doubleBackslashes, List.flatMap_cons] at h
      split at h
      · cases h
      · obtain ⟨rfl, others⟩ := List.cons.inj h
        exact ⟨rest, rfl, others.symm⟩

/-- Where there are no three quotes in a row, the first character stays. -/
theorem escapeTripleQuotes_cons {c : Char} {t : Text}
    (h : ∀ rest, c :: t ≠ '"' :: '"' :: '"' :: rest) :
    escapeTripleQuotes (c :: t) = c :: escapeTripleQuotes t := by
  rw [escapeTripleQuotes]
  rintro rest rfl rfl
  exact h rest rfl

/-- Escaping in three passes is escaping in one. -/
theorem escapeControls_passes (t : Text) :
    escapeControls (escapeTripleQuotes (doubleBackslashes t)) = escape t := by
  induction t using escape.induct with
  | case1 => rfl
  | case2 rest ih =>
      rw [escape_quotes, ← ih]
      rfl
  | case3 c rest single ih =>
      rw [escape_cons, escapeChar, ← ih]
      · by_cases backslash : c = '\\'
        · subst backslash
          rfl
        · have stays : doubleBackslashes (c :: rest) = c :: doubleBackslashes rest := by
            rw [doubleBackslashes, List.flatMap_cons, if_neg backslash]
            rfl
          rw [stays, escapeTripleQuotes_cons, if_neg backslash]
          · rfl
          · intro more triple
            obtain ⟨rfl, second⟩ := List.cons.inj triple
            obtain ⟨rest', rfl, second'⟩ := quote_of_doubleBackslashes second
            obtain ⟨rest'', rfl, -⟩ := quote_of_doubleBackslashes second'.symm
            exact single rest'' rfl rfl
      · exact single

/-! ## Line feeds -/

/-- Only a line feed leaves a line feed. -/
theorem lineFeed_of_mem_escapeControl {c : Char} (h : '\n' ∈ escapeControl c) : c = '\n' := by
  rw [escapeControl] at h
  split at h
  · exfalso
    rcases List.mem_append.mp h with inFront | inDigits
    · exact absurd inFront (by decide)
    · have noFeed : ('\n' != '\n') = true := Text.of_mem_hex (· != '\n') (by decide) inDigits
      cases noFeed
  · exact (List.mem_singleton.mp h).symm

theorem lineFeed_of_mem_escapeChar {c : Char} (h : '\n' ∈ escapeChar c) : c = '\n' := by
  rw [escapeChar] at h
  split at h
  · exact absurd h (by decide)
  · exact lineFeed_of_mem_escapeControl h

/-- A line feed cuts a text into parts that are escaped on their own. -/
theorem escape_append_lineFeed (t u : Text) :
    escape (t ++ '\n' :: u) = escape t ++ '\n' :: escape u := by
  induction t using escape.induct with
  | case1 => rfl
  | case2 rest ih =>
      have whole := congrArg ("\\\"\\\"\\\"".toList ++ ·) ih
      simpa only [List.cons_append, escape_quotes, List.append_assoc] using whole
  | case3 c rest single ih =>
      have apart : ∀ more, rest ++ '\n' :: u = '"' :: '"' :: more → c ≠ '"' := by
        rintro more quotes rfl
        match rest, quotes with
        | [], quotes => cases quotes
        | [_], quotes => cases quotes
        | _ :: _ :: rest', quotes =>
            obtain ⟨rfl, second⟩ := List.cons.inj quotes
            obtain ⟨rfl, -⟩ := List.cons.inj second
            exact single rest' rfl rfl
      rw [List.cons_append, escape_cons, escape_cons, ih, List.append_assoc]
      · exact single
      · intro more first others
        exact apart more others first

theorem escapeChar_ne_nil (c : Char) : escapeChar c ≠ [] := by
  rw [escapeChar, escapeControl]
  split
  · exact List.cons_ne_nil _ _
  · split <;> exact List.cons_ne_nil _ _

theorem escape_ne_nil {t : Text} (h : t ≠ []) : escape t ≠ [] := by
  intro empty
  cases t using escape.induct with
  | case1 => exact h rfl
  | case2 rest =>
      rw [escape_quotes] at empty
      cases empty
  | case3 c rest single =>
      rw [escape_cons, List.append_eq_nil_iff] at empty
      · exact escapeChar_ne_nil c empty.1
      · exact single

/-- An escaped text begins with a line feed only if the text does. -/
theorem head?_escape {t : Text} (h : (escape t).head? = some '\n') : t.head? = some '\n' := by
  cases t using escape.induct with
  | case1 => cases h
  | case2 rest =>
      rw [escape_quotes] at h
      cases h
  | case3 c rest single =>
      rw [escape_cons, List.head?_append_of_ne_nil _ (escapeChar_ne_nil c)] at h
      · rw [lineFeed_of_mem_escapeChar (List.mem_of_head? h), List.head?_cons]
      · exact single

/-- An escaped text ends with a line feed only if the text does. -/
theorem getLast?_escape {t : Text} (h : (escape t).getLast? = some '\n') :
    t.getLast? = some '\n' := by
  induction t using escape.induct with
  | case1 => cases h
  | case2 rest ih =>
      rw [escape_quotes] at h
      cases rest with
      | nil => cases h
      | cons d more =>
          rw [List.getLast?_append_of_ne_nil _ (escape_ne_nil (List.cons_ne_nil d more))] at h
          exact ih h
  | case3 c rest single ih =>
      rw [escape_cons] at h
      · cases rest with
        | nil =>
            rw [escape_nil, List.append_nil] at h
            rw [lineFeed_of_mem_escapeChar (List.mem_of_getLast? h), List.getLast?_singleton]
        | cons d more =>
            rw [List.getLast?_append_of_ne_nil _ (escape_ne_nil (List.cons_ne_nil d more))] at h
            exact ih h
      · exact single

/-- Dropping line feeds at the start commutes with escaping. -/
theorem dropWhile_escape (t : Text) :
    (escape t).dropWhile (· = '\n') = escape (t.dropWhile (· = '\n')) := by
  induction t with
  | nil => rfl
  | cons c rest ih =>
      by_cases feed : c = '\n'
      · subst feed
        have first := escape_append_lineFeed [] rest
        simpa [escape_nil, ih] using congrArg (List.dropWhile (· = '\n')) first
      · rw [List.dropWhile_cons_of_neg (by simpa using feed)]
        cases start : escape (c :: rest) with
        | nil => rfl
        | cons d more =>
            have other : d ≠ '\n' := by
              rintro rfl
              have head := head?_escape (t := c :: rest) (by rw [start, List.head?_cons])
              exact feed (Option.some.inj head)
            rw [List.dropWhile_cons_of_neg (by simpa using other)]

/-- Dropping line feeds at the end commutes with escaping. -/
theorem dropEndWhile_escape (t : Text) :
    Text.dropEndWhile (· = '\n') (escape t) = escape (Text.dropEndWhile (· = '\n') t) := by
  simp only [Text.dropEndWhile_eq_rdropWhile]
  induction t using List.reverseRecOn with
  | nil => rfl
  | append_singleton t c ih =>
      by_cases feed : c = '\n'
      · subst feed
        rw [escape_append_lineFeed, escape_nil, List.rdropWhile_concat_pos _ _ _ (by simp),
          List.rdropWhile_concat_pos _ _ _ (by simp), ih]
      · rw [List.rdropWhile_concat_neg _ _ _ (by simpa using feed), List.rdropWhile_eq_self_iff]
        intro nonempty same
        have same : (escape (t ++ [c])).getLast nonempty = '\n' := by simpa using same
        have last : (escape (t ++ [c])).getLast? = some '\n' := by
          rw [List.getLast?_eq_some_getLast nonempty, same]
        have last := getLast?_escape last
        rw [List.getLast?_concat] at last
        exact feed (Option.some.inj last)

/-- The content of documentation is the text without line feeds at its ends, each
character on its own. -/
theorem content_eq (t : Text) : content t = escape (Text.trim (· = '\n') t) := by
  rw [content, escapeControls_passes, Text.trim, dropWhile_escape, dropEndWhile_escape, Text.trim]

/-! ## Reading documentation -/

/-- Within documentation a character other than a quote and a backslash breaks a row
of quotes. -/
theorem step_block {c : Char} (noQuote : c ≠ '"') (noBackslash : c ≠ '\\') (run : Nat) :
    step (.block .double run) c = some (.block .double 0, []) := by
  have noQuote : c ≠ Quote.double.char := noQuote
  rw [step, blockStep, if_neg noQuote, if_neg noBackslash]

theorem reads_block {t : Text} (h : ∀ c ∈ t, c ≠ '"' ∧ c ≠ '\\') :
    Reads (.block .double 0) t (.block .double 0) [] := by
  induction t with
  | nil => exact Reads.nil _
  | cons c rest ih =>
      obtain ⟨⟨noQuote, noBackslash⟩, others⟩ := List.forall_mem_cons.mp h
      exact Reads.silent (step_block noQuote noBackslash 0) (ih others)

/-- A character other than a quote is read within documentation, escaped if need
be. -/
theorem reads_escapeChar {c : Char} (noQuote : c ≠ '"') (run : Nat) :
    Reads (.block .double run) (escapeChar c) (.block .double 0) [] := by
  rw [escapeChar]
  split
  · rfl
  · rename_i noBackslash
    rw [escapeControl]
    split
    · have opens : Reads (.block .double run) ['\\', 'x'] (.block .double 0) [] := rfl
      refine opens.append (reads_block ?_)
      intro x hx
      obtain ⟨d, small, rfl⟩ := Text.mem_hex hx
      have all : ∀ d < 16, Nat.digitChar d ≠ '"' ∧ Nat.digitChar d ≠ '\\' := by decide
      exact all d small
    · exact Reads.silent (step_block noQuote noBackslash run) (Reads.nil _)

/-- The number of quotes that a text begins with. -/
def leadingQuotes : Text → Nat
  | [] => 0
  | c :: rest => if c = '"' then leadingQuotes rest + 1 else 0

/-- Documentation is read to its end within the literal.  The reader counts quotes
in a row, and those that it has counted make fewer than three together with those
that the text begins with: three in a row are escaped. -/
theorem reads_escape (t : Text) (run : Nat) (few : run = 0 ∨ run + leadingQuotes t ≤ 2) :
    ∃ last, Reads (.block .double run) (escape t) (.block .double last) [] := by
  induction t using escape.induct generalizing run with
  | case1 => exact ⟨run, Reads.nil _⟩
  | case2 rest ih =>
      obtain ⟨last, later⟩ := ih 0 (Or.inl rfl)
      have quotes : Reads (.block .double run) "\\\"\\\"\\\"" (.block .double 0) [] := rfl
      rw [escape_quotes]
      exact ⟨last, quotes.append later⟩
  | case3 c rest single ih =>
      rw [escape_cons]
      · by_cases quote : c = '"'
        · subst quote
          have few : run + leadingQuotes rest ≤ 1 := by
            rcases few with rfl | few
            · match rest with
              | [] => exact Nat.zero_le 1
              | [d] =>
                  simp only [leadingQuotes]
                  split <;> omega
              | d :: e :: rest' =>
                  have notBoth : ¬ (d = '"' ∧ e = '"') := by
                    rintro ⟨rfl, rfl⟩
                    exact single rest' rfl rfl
                  simp only [leadingQuotes]
                  split
                  · split <;> simp_all
                  · omega
            · simp only [leadingQuotes, if_pos] at few
              omega
          obtain ⟨last, later⟩ := ih (run + 1) (Or.inr (by omega))
          have counts : step (.block .double run) '"' = some (.block .double (run + 1), []) := by
            have isQuote : '"' = Quote.double.char := rfl
            have notThird : run ≠ 2 := by omega
            rw [step, blockStep, if_pos isQuote, if_neg notThird]
          exact ⟨last, Reads.silent counts later⟩
        · obtain ⟨last, later⟩ := ih 0 (Or.inl rfl)
          exact ⟨last, (reads_escapeChar quote run).append later⟩
      · exact single

/-- Documentation is read as one piece. -/
theorem readsAs_literal (t : Text) : ReadsAs (literal t) [literalMark] := by
  obtain ⟨last, inside⟩ := reads_escape (Text.trim (· = '\n') t) 0 (Or.inl rfl)
  have opens : Reads .code "\"\"\"\n" (.block .double 0) [literalMark] := rfl
  have closes : Reads (.block .double last) "\n\"\"\"" .code [] := by
    have feed := step_block (c := '\n') (by decide) (by decide) last
    exact Reads.silent feed rfl
  rw [literal, content_eq]
  exact (opens.append inside).append closes

/-! ## Comments -/

/-- Escaping control characters makes no line ends. -/
theorem inLine_escapeControls {t : Text} (h : Text.InLine t) : Text.InLine (escapeControls t) := by
  intro c hc
  obtain ⟨d, inText, inEscape⟩ := List.mem_flatMap.mp hc
  rw [escapeControl] at inEscape
  split at inEscape
  · rcases List.mem_append.mp inEscape with inFront | inDigits
    · have front : Text.InLine "\\x" := by decide
      exact front c inFront
    · simpa using Text.of_mem_hex (! Text.isLineEnd ·) (by decide) inDigits
  · rw [List.mem_singleton.mp inEscape]
    exact h d inText

end ClientGen.Docstring
