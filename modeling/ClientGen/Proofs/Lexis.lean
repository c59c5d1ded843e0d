/-
# Code apart from comments and literals

A reader that goes through a source text by Python's lexical rules for comments
and string literals.  A comment runs from a number sign to the next line feed; a
literal in one or three quotes runs to the next unescaped quote, or three of them
in a row; a backslash within a literal takes the next character with it.  The
reader gives what is left of a text when each comment is replaced by one mark and
each literal by another: its skeleton.  Reading fails on a line feed within a
literal of one line, and on a text that ends within a literal.

The main law is that reading commutes with indentation.  Margins are put into a
text without regard to what is code in it, and still the skeleton of an indented
text is the indented skeleton of the text.
-/
import ClientGen.Proofs.Lines

namespace ClientGen.Lexis

/-- The two quotes that literals are written in. -/
inductive Quote
  | single
  | double
  deriving DecidableEq, Repr

/-- A quote as a character. -/
def Quote.char : Quote → Char
  | .single => '\''
  | .double => '"'

/-- The quote that a character is. -/
def quote? (c : Char) : Option Quote :=
  if c = '\'' then some .single else if c = '"' then some .double else none

/-- Where the reader stands. -/
inductive Mode
  | code
  | comment
  /-- after the first quote of a literal -/
  | opened (quote : Quote)
  /-- after two quotes: an empty literal, unless a third one follows -/
  | closed (quote : Quote)
  /-- in a literal of one line -/
  | line (quote : Quote)
  /-- after a backslash in a literal of one line -/
  | lineEscape (quote : Quote)
  /-- in a literal of several lines, after so many of its quotes in a row -/
  | block (quote : Quote) (run : Nat)
  /-- after a backslash in a literal of several lines -/
  | blockEscape (quote : Quote)
  deriving DecidableEq, Repr

/-- The mark of a comment. -/
def commentMark : Char := '#'

/-- The mark of a literal. -/
def literalMark : Char := '\''

/-- A character of code: it stays, or it opens a comment or a literal. -/
def codeStep (c : Char) : Mode × Text :=
  if c = '#' then (.comment, [commentMark])
  else match quote? c with
    | some quote => (.opened quote, [literalMark])
    | none => (.code, [c])

/-- A character of a literal of one line. -/
def lineStep (quote : Quote) (c : Char) : Option (Mode × Text) :=
  if c = quote.char then some (.code, [])
  else if c = '\n' then none
  else if c = '\\' then some (.lineEscape quote, [])
  else some (.line quote, [])

/-- A character of a literal of several lines, after `run` quotes in a row. -/
def blockStep (quote : Quote) (run : Nat) (c : Char) : Mode × Text :=
  if c = quote.char then (if run = 2 then (.code, []) else (.block quote (run + 1), []))
  else if c = '\\' then (.blockEscape quote, [])
  else (.block quote 0, [])

/-- What one character does: where the reader stands after it, and what it leaves.
-/
def step : Mode → Char → Option (Mode × Text)
  | .code, c => some (codeStep c)
  | .comment, c => some (if c = '\n' then (.code, ['\n']) else (.comment, []))
  | .opened quote, c => if c = quote.char then some (.closed quote, []) else lineStep quote c
  | .closed quote, c => some (if c = quote.char then (.block quote 0, []) else codeStep c)
  | .line quote, c => lineStep quote c
  | .lineEscape quote, _ => some (.line quote, [])
  | .block quote run, c => some (blockStep quote run c)
  | .blockEscape quote, _ => some (.block quote 0, [])

/-- Reading a text: where the reader stands after it, and what the text leaves. -/
def scan : Mode → Text → Option (Mode × Text)
  | m, [] => some (m, [])
  | m, c :: rest =>
    (step m c).bind fun first => (scan first.1 rest).map fun later => (later.1, first.2 ++ later.2)

/-- Whether the reader stands outside any literal. -/
def Mode.isOutside : Mode → Bool
  | .code | .comment | .closed _ => true
  | _ => false

/-- The skeleton of a text: what is left of it when comments and literals are
replaced by their marks.  There is none if a literal of one line meets a line feed
or a literal is not ended. -/
def skeleton (t : Text) : Option Text :=
  (scan .code t).bind fun read => if read.1.isOutside then some read.2 else none

/-! ## Reading in parts -/

/-- From `m` the text is read to `m'` and leaves `s`. -/
def Reads (m : Mode) (t : Text) (m' : Mode) (s : Text) : Prop := scan m t = some (m', s)

/-- The text begins and ends in code and leaves `s`. -/
def ReadsAs (t s : Text) : Prop := Reads .code t .code s

/-- An empty text leaves nothing. -/
theorem Reads.nil (m : Mode) : Reads m [] m [] := rfl

/-- Reading a character, then the rest. -/
theorem Reads.cons {m next m' : Mode} {c : Char} {rest left more : Text}
    (first : step m c = some (next, left)) (others : Reads next rest m' more) :
    Reads m (c :: rest) m' (left ++ more) := by
  rw [Reads] at others ⊢
  rw [scan, first, Option.bind_some, others]
  rfl

/-- Reading a character that leaves nothing, then the rest. -/
theorem Reads.silent {m next m' : Mode} {c : Char} {rest more : Text}
    (first : step m c = some (next, [])) (others : Reads next rest m' more) :
    Reads m (c :: rest) m' more :=
  Reads.cons first others

/-- Reading one text and then another. -/
theorem Reads.append {m m' m'' : Mode} {a b s s' : Text} (first : Reads m a m' s)
    (second : Reads m' b m'' s') : Reads m (a ++ b) m'' (s ++ s') := by
  induction a generalizing m s with
  | nil =>
      obtain ⟨rfl, rfl⟩ := Prod.mk.inj (Option.some.inj first)
      exact second
  | cons c rest ih =>
      rw [Reads, scan] at first
      obtain ⟨read, hstep, hrest⟩ := Option.bind_eq_some_iff.mp first
      obtain ⟨later, hscan, hlast⟩ := Option.map_eq_some_iff.mp hrest
      obtain ⟨rfl, rfl⟩ := Prod.mk.inj hlast
      rw [List.append_assoc]
      exact Reads.cons hstep (ih hscan)

/-- Reading one text of code and then another. -/
theorem ReadsAs.append {a b s s' : Text} (first : ReadsAs a s) (second : ReadsAs b s') :
    ReadsAs (a ++ b) (s ++ s') :=
  Reads.append first second

/-- A text that ends in code has a skeleton. -/
theorem ReadsAs.skeleton_eq {t s : Text} (h : ReadsAs t s) : skeleton t = some s := by
  rw [skeleton, h]
  rfl

/-- Whether a character opens neither a comment nor a literal. -/
def isPlain (c : Char) : Bool := c ≠ '#' && c ≠ '\'' && c ≠ '"'

/-- A plain character stays. -/
theorem codeStep_of_isPlain {c : Char} (h : isPlain c = true) : codeStep c = (.code, [c]) := by
  simp only [isPlain, Bool.and_eq_true, decide_eq_true_eq] at h
  obtain ⟨⟨noSign, noSingle⟩, noDouble⟩ := h
  rw [codeStep, if_neg noSign, quote?, if_neg noSingle, if_neg noDouble]

/-- Plain text is its own skeleton. -/
theorem readsAs_of_isPlain {t : Text} (h : Text.Only isPlain t) : ReadsAs t t := by
  induction t with
  | nil => exact Reads.nil .code
  | cons c rest ih =>
      obtain ⟨first, others⟩ := Text.only_cons_iff.mp h
      have hstep : step .code c = some (.code, [c]) := congrArg some (codeStep_of_isPlain first)
      exact Reads.cons hstep (ih others)

theorem readsAs_singleton {c : Char} (h : isPlain c = true) : ReadsAs [c] [c] :=
  readsAs_of_isPlain (Text.only_cons_iff.mpr ⟨h, by decide⟩)

/-- After an empty literal a plain character is code. -/
theorem step_closed_of_isPlain (quote : Quote) {c : Char} (h : isPlain c = true) :
    step (.closed quote) c = some (.code, [c]) := by
  have different : c ≠ quote.char := by
    rintro rfl
    cases quote <;> exact absurd h (by decide)
  rw [step, if_neg different, codeStep_of_isPlain h]

/-- A comment with its line feed leaves its mark and the line feed. -/
theorem readsAs_comment {t : Text} (h : '\n' ∉ t) :
    ReadsAs ('#' :: t ++ ['\n']) [commentMark, '\n'] := by
  have inside : Reads .comment (t ++ ['\n']) .code ['\n'] := by
    induction t with
    | nil => rfl
    | cons c rest ih =>
        obtain ⟨first, others⟩ := not_or.mp (List.mem_cons.not.mp h)
        have hstep : step .comment c = some (.comment, []) := by
          rw [step, if_neg (Ne.symm first)]
        exact Reads.silent hstep (ih others)
  have opens : step .code '#' = some (.comment, [commentMark]) := rfl
  exact Reads.cons opens inside

/-! ## Reading under indentation -/

/-- Whether the reader may stand so where a line begins. -/
def Mode.startsLine : Mode → Bool
  | .code | .comment | .line _ | .block _ 0 => true
  | _ => false

/-- Whether the reader stands in code. -/
def Mode.isCode : Mode → Bool
  | .code => true
  | _ => false

/-- A character that ends a line opens, closes and escapes nothing. -/
theorem lineEnd_ne {c : Char} (h : Text.isLineEnd c = true) :
    c ≠ '#' ∧ c ≠ '\\' ∧ ∀ quote : Quote, c ≠ quote.char := by
  refine ⟨?_, ?_, ?_⟩
  · rintro rfl
    exact absurd h (by decide)
  · rintro rfl
    exact absurd h (by decide)
  · rintro quote rfl
    cases quote <;> exact absurd h (by decide)

/-- A character that ends a line is plain. -/
theorem isPlain_of_isLineEnd {c : Char} (h : Text.isLineEnd c = true) : isPlain c = true :=
  Text.of_isLineEnd isPlain (by decide) h

/-- After a line end the reader stands as it may where a line begins. -/
theorem startsLine_of_step {m next : Mode} {c : Char} {left : Text}
    (lineEnd : Text.isLineEnd c = true) (h : step m c = some (next, left)) :
    next.startsLine = true := by
  obtain ⟨-, noEscape, noQuote⟩ := lineEnd_ne lineEnd
  have code := codeStep_of_isPlain (isPlain_of_isLineEnd lineEnd)
  have inLine : ∀ quote, lineStep quote c = some (next, left) → next.startsLine = true := by
    intro quote h
    rw [lineStep, if_neg (noQuote quote), if_neg noEscape] at h
    split at h
    · cases h
    · cases h
      rfl
  cases m with
  | code =>
      rw [step, code] at h
      cases h
      rfl
  | comment =>
      rw [step] at h
      split at h <;> (cases h; rfl)
  | opened quote =>
      rw [step, if_neg (noQuote quote)] at h
      exact inLine quote h
  | closed quote =>
      rw [step, if_neg (noQuote quote), code] at h
      cases h
      rfl
  | line quote => exact inLine quote h
  | lineEscape quote =>
      cases h
      rfl
  | block quote run =>
      rw [step, blockStep, if_neg (noQuote quote), if_neg noEscape] at h
      cases h
      rfl
  | blockEscape quote =>
      cases h
      rfl

/-- What a character of code leaves: itself, or the mark of what it opens. -/
theorem codeStep_cases (c : Char) :
    codeStep c = (.code, [c]) ∨
      ∃ next mark, codeStep c = (next, [mark]) ∧ next.isCode = false ∧ Text.isBlank mark = false ∧
        Text.isBlank c = false := by
  by_cases plain : isPlain c
  · exact Or.inl (codeStep_of_isPlain plain)
  · right
    have some : c = '#' ∨ c = '\'' ∨ c = '"' := by
      by_contra none
      simp only [not_or] at none
      exact plain (by simp [isPlain, none])
    rcases some with rfl | rfl | rfl
    · exact ⟨.comment, commentMark, rfl, rfl, by decide, by decide⟩
    · exact ⟨.opened .single, literalMark, rfl, rfl, by decide, by decide⟩
    · exact ⟨.opened .double, literalMark, rfl, rfl, by decide, by decide⟩

/-- A character leaves nothing, where the reader is not in code; or itself, and
the reader is in code after it; or a mark, and the reader is not. -/
theorem step_cases {m next : Mode} {c : Char} {left : Text} (h : step m c = some (next, left)) :
    (left = [] ∧ m.isCode = false ∧ (next.isCode = true → Text.isLineEnd c = false)) ∨
      (left = [c] ∧ next = .code) ∨
      ∃ mark, left = [mark] ∧ Text.isBlank mark = false ∧ next.isCode = false := by
  have fromCode : codeStep c = (next, left) → (left = [c] ∧ next = .code) ∨
      ∃ mark, left = [mark] ∧ Text.isBlank mark = false ∧ next.isCode = false := by
    intro h
    rcases codeStep_cases c with stays | ⟨next', mark, opens, noCode, ink, -⟩
    · rw [stays] at h
      cases h
      exact Or.inl ⟨rfl, rfl⟩
    · rw [opens] at h
      cases h
      exact Or.inr ⟨mark, rfl, ink, noCode⟩
  have noLineEnd : ∀ quote : Quote, c = quote.char → Text.isLineEnd c = false := by
    rintro quote rfl
    cases quote <;> decide
  have inLine : ∀ quote, lineStep quote c = some (next, left) →
      left = [] ∧ (next.isCode = true → Text.isLineEnd c = false) := by
    intro quote h
    rw [lineStep] at h
    split at h
    · rename_i ends
      cases h
      exact ⟨rfl, fun _ => noLineEnd quote ends⟩
    · split at h
      · cases h
      · split at h <;> (cases h; exact ⟨rfl, Bool.noConfusion⟩)
  cases m with
  | code => exact Or.inr (fromCode (Option.some.inj h))
  | comment =>
      rw [step] at h
      split at h
      · rename_i lineFeed
        cases h
        exact Or.inr (Or.inl ⟨by rw [lineFeed], rfl⟩)
      · cases h
        exact Or.inl ⟨rfl, rfl, Bool.noConfusion⟩
  | opened quote =>
      rw [step] at h
      split at h
      · cases h
        exact Or.inl ⟨rfl, rfl, Bool.noConfusion⟩
      · obtain ⟨silent, ends⟩ := inLine quote h
        exact Or.inl ⟨silent, rfl, ends⟩
  | closed quote =>
      rw [step] at h
      split at h
      · cases h
        exact Or.inl ⟨rfl, rfl, Bool.noConfusion⟩
      · exact Or.inr (fromCode (Option.some.inj h))
  | line quote =>
      obtain ⟨silent, ends⟩ := inLine quote h
      exact Or.inl ⟨silent, rfl, ends⟩
  | lineEscape quote =>
      cases h
      exact Or.inl ⟨rfl, rfl, Bool.noConfusion⟩
  | block quote run =>
      rw [step, blockStep] at h
      split at h
      · rename_i ends
        split at h
        · cases h
          exact Or.inl ⟨rfl, rfl, fun _ => noLineEnd quote ends⟩
        · cases h
          exact Or.inl ⟨rfl, rfl, Bool.noConfusion⟩
      · split at h <;>
          (cases h; exact Or.inl ⟨rfl, rfl, Bool.noConfusion⟩)
  | blockEscape quote =>
      cases h
      exact Or.inl ⟨rfl, rfl, Bool.noConfusion⟩

/-- Reading a text is reading its first character and then the rest. -/
theorem reads_cons_iff {m m' : Mode} {c : Char} {rest s : Text} :
    Reads m (c :: rest) m' s ↔
      ∃ next left more, step m c = some (next, left) ∧ Reads next rest m' more ∧
        s = left ++ more := by
  constructor
  · intro h
    rw [Reads, scan] at h
    obtain ⟨⟨next, left⟩, hstep, hrest⟩ := Option.bind_eq_some_iff.mp h
    obtain ⟨⟨last, more⟩, hscan, hlast⟩ := Option.map_eq_some_iff.mp hrest
    obtain ⟨rfl, rfl⟩ := Prod.mk.inj hlast
    exact ⟨next, left, more, hstep, hscan, rfl⟩
  · rintro ⟨next, left, more, first, others, rfl⟩
    exact Reads.cons first others

/-- A text of code and its skeleton both go on with a line feed, or neither does. -/
theorem head?_lineFeed_iff {t s : Text} {m' : Mode} (h : Reads .code t m' s) :
    t.head? = some '\n' ↔ s.head? = some '\n' := by
  cases t with
  | nil =>
      obtain ⟨-, rfl⟩ := Prod.mk.inj (Option.some.inj h)
      exact Iff.rfl
  | cons c rest =>
      obtain ⟨next, left, more, first, -, rfl⟩ := reads_cons_iff.mp h
      have first : codeStep c = (next, left) := Option.some.inj first
      rcases codeStep_cases c with stays | ⟨next', mark, opens, -, ink, inkHere⟩
      · rw [stays] at first
        cases first
        exact Iff.rfl
      · rw [opens] at first
        cases first
        have noFeed : ∀ x, Text.isBlank x = false → x ≠ '\n' := by
          rintro x inked rfl
          exact absurd inked (by decide)
        simp [noFeed mark ink, noFeed c inkHere]

/-- The first line of a skeleton has ink if the first line of the text has. -/
theorem firstLineHasInk_of_reads {t s : Text} {m' : Mode} (h : Reads .code t m' s) :
    Text.firstLineHasInk s = Text.firstLineHasInk t := by
  induction t generalizing s with
  | nil =>
      obtain ⟨-, rfl⟩ := Prod.mk.inj (Option.some.inj h)
      rfl
  | cons c rest ih =>
      obtain ⟨next, left, more, first, others, rfl⟩ := reads_cons_iff.mp h
      have first : codeStep c = (next, left) := Option.some.inj first
      rcases codeStep_cases c with stays | ⟨next', mark, opens, -, ink, inkHere⟩
      · rw [stays] at first
        cases first
        have cut : Text.endsLine c more = Text.endsLine c rest :=
          Text.endsLine_congr (head?_lineFeed_iff others).symm
        rw [List.singleton_append, Text.firstLineHasInk, Text.firstLineHasInk, cut, ih others]
      · rw [opens] at first
        cases first
        rw [List.singleton_append, Text.firstLineHasInk, Text.firstLineHasInk, ink, inkHere]
        rfl

/-- Blanks leave the reader where it may stand at the start of a line; in code
they stay. -/
theorem reads_blanks {m : Mode} (h : m.startsLine = true) (n : Nat) :
    Reads m (List.replicate n ' ') m (if m.isCode then List.replicate n ' ' else []) := by
  have one : step m ' ' = some (m, if m.isCode then [' '] else []) := by
    cases m with
    | code | comment => rfl
    | line quote => cases quote <;> rfl
    | block quote run =>
        cases run with
        | zero => cases quote <;> rfl
        | succ run => cases h
    | opened | closed | lineEscape | blockEscape => cases h
  induction n with
  | zero =>
      rw [List.replicate_zero, ite_self]
      exact Reads.nil m
  | succ n ih =>
      have read := Reads.cons one ih
      rw [List.replicate_succ]
      by_cases code : m.isCode
      · simpa [code, List.replicate_succ] using read
      · simpa [code] using read

/-- Reading commutes with indentation: what an indented text leaves is what the
text leaves, indented; margins within comments and literals leave nothing. -/
theorem Reads.indentFrom {m m' : Mode} {t s : Text} (h : Reads m t m' s) (n : Nat) (start : Bool)
    (mayStart : start = true → m.startsLine = true) :
    Reads m (Text.indentFrom (List.replicate n ' ') start t) m'
      (Text.indentFrom (List.replicate n ' ') (start && m.isCode) s) := by
  induction t generalizing m s start with
  | nil =>
      obtain ⟨rfl, rfl⟩ := Prod.mk.inj (Option.some.inj h)
      exact Reads.nil m
  | cons c rest ih =>
      obtain ⟨next, left, more, first, others, rfl⟩ := reads_cons_iff.mp h
      have later := ih others (Text.endsLine c rest) fun cut =>
        startsLine_of_step (Text.isLineEnd_of_endsLine cut) first
      -- the margin is read where the reader stands, before the character
      have margin : Reads m
          (if start && Text.firstLineHasInk (c :: rest) then List.replicate n ' ' else []) m
          (if (start && m.isCode) && Text.firstLineHasInk (c :: rest) then List.replicate n ' '
            else []) := by
        by_cases put : (start && Text.firstLineHasInk (c :: rest)) = true
        · obtain ⟨atStart, ink⟩ := Bool.and_eq_true_iff.mp put
          have read := reads_blanks (mayStart atStart) n
          simpa [atStart, ink] using read
        · have none : ((start && m.isCode) && Text.firstLineHasInk (c :: rest)) = false := by
            cases start <;> simp_all
          rw [if_neg put, none]
          exact Reads.nil m
      have whole := margin.append (Reads.cons first later)
      rw [Text.indentFrom]
      refine whole.trans ?_
      congr 2
      rcases step_cases first with ⟨rfl, noCode, ends⟩ | ⟨rfl, rfl⟩ | ⟨mark, rfl, ink, noCode⟩
      · have middle : (Text.endsLine c rest && next.isCode) = false := by
          cases inCode : next.isCode with
          | false => rw [Bool.and_false]
          | true => rw [Text.endsLine_eq_false (ends inCode), Bool.false_and]
        rw [noCode, middle]
        simp
      · have cut : Text.endsLine c more = Text.endsLine c rest :=
          Text.endsLine_congr (head?_lineFeed_iff others).symm
        simp only [List.singleton_append]
        rw [Text.indentFrom, cut]
        cases inCode : m.isCode with
        | false => simp [Mode.isCode]
        | true =>
            have same : m = .code := by cases m <;> first | rfl | cases inCode
            subst same
            have ink := firstLineHasInk_of_reads h
            rw [List.singleton_append] at ink
            simp [Mode.isCode, ink]
      · have noEnd : Text.isLineEnd mark = false := by
          cases lineEnd : Text.isLineEnd mark with
          | false => rfl
          | true => rw [Text.isBlank_of_isLineEnd lineEnd] at ink; cases ink
        simp only [List.singleton_append]
        rw [Text.indentFrom, Text.endsLine_eq_false noEnd, noCode]
        cases inCode : m.isCode with
        | false => simp
        | true =>
            have same : m = .code := by cases m <;> first | rfl | cases inCode
            subst same
            have inkSame := firstLineHasInk_of_reads h
            rw [List.singleton_append] at inkSame
            simp [inkSame]

/-- The skeleton of an indented text is the indented skeleton. -/
theorem ReadsAs.indentBy {t s : Text} (h : ReadsAs t s) (n : Nat) :
    ReadsAs (Text.indentBy (List.replicate n ' ') t) (Text.indentBy (List.replicate n ' ') s) := by
  rw [Text.indentBy_eq_indentFrom, Text.indentBy_eq_indentFrom]
  exact Reads.indentFrom h n true fun _ => rfl

end ClientGen.Lexis
