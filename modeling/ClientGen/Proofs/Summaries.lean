/-
# Summaries in the documentation of methods

The documentation of a method begins with the summary of its operation.  Its control
characters are escaped, and all the others are left as they are; but three of these,
U+0085, U+2028 and U+2029, end lines for the indentation that comes afterwards.  Where one of
them stands before a character that is not blank, a margin is put into the summary, and
what is read back is no longer the text of the document.

So a summary in one line reaches its documentation unchanged exactly if none of the three
has more than blanks behind it.  In the one direction there is nothing to indent.  In the
other, the margin moves the last character that is not blank further away from the break
before it than it was, and no shift of the whole makes up for this.
-/
import ClientGen.Proofs.Rendering
import Mathlib.Data.List.Infix

namespace ClientGen

namespace Docstring

open Text (Only)

variable {margin t u : Text} {c : Char}

/-! ## Breaks -/

/-- The characters that documentation is broken at. -/
theorem isBreak_iff :
    isBreak c = true ↔ c = '\n' ∨ c = '\u0085' ∨ c = '\u2028' ∨ c = '\u2029' := by
  constructor
  · intro h
    obtain ⟨ends, passes⟩ := Bool.and_eq_true_iff.mp h
    have listed := Text.of_isLineEnd (fun c => isControl c || c = '\n' || c = '\u0085' ||
      c = '\u2028' || c = '\u2029') (by decide) ends
    simpa [(Bool.not_eq_true' _).mp passes, or_assoc] using listed
  · rintro (rfl | rfl | rfl | rfl) <;> rfl

/-- A break is blank, and it is not escaped. -/
theorem isInk_of_isBreak (h : isBreak c = true) : isInk c = false := by
  obtain ⟨ends, passes⟩ := Bool.and_eq_true_iff.mp h
  simp only [Bool.not_eq_true'] at passes
  rw [isInk, Text.isBlank_of_isLineEnd ends, passes]
  rfl

/-- What is behind a break does not matter for the ink of the first line. -/
theorem lineHasInk_append_break (isBreak : isBreak c = true) (t u : Text) :
    lineHasInk (t ++ c :: u) = lineHasInk t := by
  induction t with
  | nil => simp [lineHasInk, isInk_of_isBreak isBreak, isBreak]
  | cons d rest ih => rw [List.cons_append, lineHasInk, lineHasInk, ih]

/-- What is before a break and what is behind it are laid out each on its own. -/
theorem laidOutFrom_append_break (isBreak : isBreak c = true) (start : Bool) (t u : Text) :
    laidOutFrom margin start (t ++ c :: u) =
      laidOutFrom margin start t ++ c :: laidOut margin u := by
  induction t generalizing start with
  | nil =>
      have noInk : lineHasInk (c :: u) = false := lineHasInk_append_break isBreak [] u
      simp [laidOutFrom, noInk, isBreak, laidOut]
  | cons d rest ih =>
      have ink := lineHasInk_append_break isBreak (d :: rest) u
      rw [List.cons_append] at ink
      rw [List.cons_append, laidOutFrom, laidOutFrom, ih, ink, List.append_assoc]
      rfl

/-- Laying out adds the characters of the margin only. -/
theorem countP_laidOutFrom {p : Char → Bool} (none : Only (! p ·) margin) (start : Bool)
    (t : Text) : (laidOutFrom margin start t).countP p = t.countP p := by
  induction t generalizing start with
  | nil => rfl
  | cons c rest ih =>
      have front :
          (if (start && lineHasInk (c :: rest)) = true then margin else []).countP p = 0 := by
        split
        · exact List.countP_eq_zero.mpr fun c among => by simpa using none c among
        · rfl
      rw [laidOutFrom, List.countP_append, front, Nat.zero_add, List.countP_cons, ih,
        List.countP_cons]

/-! ## Unbroken texts -/

/-- No break has anything but blanks behind it; a character that is escaped is none. -/
def Unbroken (t : Text) : Prop :=
  ∀ before c after, t = before ++ c :: after → isBreak c = true → ∀ d ∈ after, isInk d = false

theorem Unbroken.tail {rest : Text} (h : Unbroken (c :: rest)) : Unbroken rest := by
  rintro before d after rfl
  exact h (c :: before) d after rfl

/-- A line of blanks has no ink. -/
theorem lineHasInk_eq_false (h : ∀ d ∈ t, isInk d = false) : lineHasInk t = false := by
  induction t with
  | nil => rfl
  | cons c rest ih =>
      obtain ⟨first, others⟩ := List.forall_mem_cons.mp h
      rw [lineHasInk, first, ih others, Bool.and_false]
      rfl

/-- Blanks get no margin. -/
theorem laidOutFrom_of_noInk (h : ∀ d ∈ t, isInk d = false) (start : Bool) :
    laidOutFrom margin start t = t := by
  induction t generalizing start with
  | nil => rfl
  | cons c rest ih =>
      rw [laidOutFrom, lineHasInk_eq_false h, Bool.and_false, ih (List.forall_mem_cons.mp h).2]
      rfl

/-- An unbroken text gets no margin but in front. -/
theorem Unbroken.laidOutFrom_false (h : Unbroken t) : laidOutFrom margin false t = t := by
  induction t with
  | nil => rfl
  | cons c rest ih =>
      rw [laidOutFrom, Bool.false_and]
      cases isBreak : isBreak c with
      | false => rw [ih h.tail]; rfl
      | true => rw [laidOutFrom_of_noInk (h [] c rest rfl isBreak)]; rfl

/-- An unbroken text is laid out with itself as a part. -/
theorem Unbroken.infix_laidOut (h : Unbroken t) : t <:+: laidOut margin t := by
  rw [laidOut, laidOutFrom_eq, h.laidOutFrom_false]
  exact (List.suffix_append _ t).isInfix

/-! ## Broken texts -/

/-- The length of a text up to its last character that is not blank. -/
def inkLength : Text → Nat
  | [] => 0
  | c :: rest => if (c :: rest).any isInk then inkLength rest + 1 else 0

/-- Blanks at the end do not count. -/
theorem inkLength_append_blanks (h : ∀ d ∈ u, isInk d = false) (t : Text) :
    inkLength (t ++ u) = inkLength t := by
  have none : u.any isInk = false := List.any_eq_false.mpr fun d among => by simp [h d among]
  induction t with
  | nil =>
      cases u with
      | nil => rfl
      | cons c rest => simp only [List.nil_append, inkLength, none, Bool.false_eq_true, if_false]
  | cons c rest ih =>
      rw [List.cons_append, inkLength, inkLength, ih, ← List.cons_append, List.any_append, none,
        Bool.or_false]

/-- What stands before ink counts. -/
theorem inkLength_append (ink : u.any isInk = true) (t : Text) :
    inkLength (t ++ u) = t.length + inkLength u := by
  induction t with
  | nil => exact (Nat.zero_add _).symm
  | cons c rest ih =>
      have some : (c :: (rest ++ u)).any isInk = true := by simp [ink]
      rw [List.cons_append, inkLength, if_pos some, ih, List.length_cons]
      omega

/-- Laying out neither adds nor removes ink. -/
theorem any_laidOutFrom (noInk : Only (! isInk ·) margin) (start : Bool) (t : Text) :
    (laidOutFrom margin start t).any isInk = t.any isInk := by
  have same := countP_laidOutFrom noInk start t
  rw [Bool.eq_iff_iff, List.any_eq_true, List.any_eq_true, ← List.countP_pos_iff, same,
    List.countP_pos_iff]

/-- A text with ink has its length moved by the margin in front, if there is one. -/
theorem inkLength_laidOutFrom_cons (noInk : Only (! isInk ·) margin) (start : Bool)
    {rest : Text} (ink : (c :: rest).any isInk = true) :
    inkLength (laidOutFrom margin start (c :: rest)) =
      (if start && lineHasInk (c :: rest) then margin else []).length +
        (inkLength (laidOutFrom margin (isBreak c) rest) + 1) := by
  have later : (c :: laidOutFrom margin (isBreak c) rest).any isInk = true := by
    rwa [List.any_cons, any_laidOutFrom noInk, ← List.any_cons]
  rw [laidOutFrom, inkLength_append later, inkLength, if_pos later]

/-- Laying out moves no ink forward. -/
theorem inkLength_le (noInk : Only (! isInk ·) margin) (start : Bool) (t : Text) :
    inkLength t ≤ inkLength (laidOutFrom margin start t) := by
  induction t generalizing start with
  | nil => exact Nat.zero_le _
  | cons c rest ih =>
      cases ink : (c :: rest).any isInk with
      | false =>
          rw [inkLength, ink]
          exact Nat.zero_le _
      | true =>
          have behind := ih (isBreak c)
          rw [inkLength_laidOutFrom_cons noInk start ink, inkLength, if_pos ink]
          omega

/-- The ink of a text is moved back by a margin, unless a line that began before has some of
it. -/
theorem inkLength_add_le (noInk : Only (! isInk ·) margin) {start : Bool}
    (ink : t.any isInk = true) (begins : start = true ∨ lineHasInk t = false) :
    inkLength t + margin.length ≤ inkLength (laidOutFrom margin start t) := by
  induction t generalizing start with
  | nil => cases ink
  | cons c rest ih =>
      rw [inkLength_laidOutFrom_cons noInk start ink, inkLength, if_pos ink]
      cases inLine : lineHasInk (c :: rest) with
      | true =>
          -- the margin is put here
          have atStart : start = true := begins.resolve_right (by simp [inLine])
          have behind := inkLength_le noInk (isBreak c) rest
          simp only [atStart, Bool.and_true, if_true]
          omega
      | false =>
          -- a blank that leaves the line without ink: the margin is put further on
          rw [lineHasInk, Bool.or_eq_false_iff] at inLine
          obtain ⟨first, others⟩ := inLine
          rw [List.any_cons, first, Bool.false_or] at ink
          have next : isBreak c = true ∨ lineHasInk rest = false := by
            cases isBreak : isBreak c with
            | true => exact Or.inl rfl
            | false => simpa [isBreak] using others
          have behind := ih ink next
          omega

/-- A text is cut at one place only before a break with so many breaks in front. -/
theorem eq_of_append_break {a b x y : Text} {c d : Char} (first : isBreak c = true)
    (second : isBreak d = true) (same : a ++ c :: x = b ++ d :: y)
    (count : a.countP isBreak = b.countP isBreak) : a = b ∧ x = y := by
  rcases List.append_eq_append_iff.mp same with ⟨more, rfl, rest⟩ | ⟨more, rfl, rest⟩
  · cases more with
    | nil =>
        obtain ⟨-, rfl⟩ := List.cons.inj rest
        exact ⟨(List.append_nil a).symm, rfl⟩
    | cons e more =>
        obtain ⟨rfl, -⟩ := List.cons.inj rest
        rw [List.countP_append, List.countP_cons_of_pos first] at count
        omega
  · cases more with
    | nil =>
        obtain ⟨-, rfl⟩ := List.cons.inj rest
        exact ⟨List.append_nil b, rfl⟩
    | cons e more =>
        obtain ⟨rfl, -⟩ := List.cons.inj rest
        rw [List.countP_append, List.countP_cons_of_pos second] at count
        omega

/-- A text that is laid out with itself as a part is unbroken. -/
theorem unbroken_of_infix_laidOut (noInk : Only (! isInk ·) margin)
    (noBreak : Only (! isBreak ·) margin) (nonempty : margin ≠ [])
    (part : t <:+: laidOut margin t) : Unbroken t := by
  rintro before c after rfl isBreak d among
  obtain ⟨a, b, whole⟩ := part
  -- what stands around the text is all margin, so its breaks are those of the laid out text
  have kept : ∀ {p : Char → Bool}, Only (! p ·) margin → a.countP p = 0 ∧ b.countP p = 0 := by
    intro p none
    have same := congrArg (List.countP p) whole
    rw [laidOut, countP_laidOutFrom none, List.countP_append, List.countP_append] at same
    omega
  have cut : (a ++ before) ++ c :: (after ++ b) =
      laidOutFrom margin true before ++ c :: laidOut margin after := by
    rw [← laidOutFrom_append_break isBreak, ← laidOut, ← whole]
    simp
  have count : (a ++ before).countP Docstring.isBreak =
      (laidOutFrom margin true before).countP Docstring.isBreak := by
    rw [countP_laidOutFrom noBreak, List.countP_append, (kept noBreak).1, Nat.zero_add]
  obtain ⟨-, behind⟩ := eq_of_append_break isBreak isBreak cut count
  have blanks : ∀ d ∈ b, isInk d = false := by
    intro d among
    simpa using List.countP_eq_zero.mp (kept noInk).2 d among
  -- behind the break nothing but blanks can be added, but ink would be moved
  by_contra shows
  have ink : after.any isInk = true := List.any_eq_true.mpr ⟨d, among, by simpa using shows⟩
  have moved := inkLength_add_le noInk ink (Or.inl rfl)
  rw [← laidOut, ← behind, inkLength_append_blanks blanks] at moved
  have long := List.length_pos_iff.mpr nonempty
  omega

instance (t : Text) : Decidable (Unbroken t) :=
  decidable_of_iff (laidOutFrom [' '] false t = t) ⟨fun same => by
    apply unbroken_of_infix_laidOut (by decide) (by decide) (List.cons_ne_nil ' ' [])
    rw [laidOut, laidOutFrom_eq, same]
    exact (List.suffix_append _ t).isInfix, Unbroken.laidOutFrom_false⟩

end Docstring

namespace Client

open Code

variable {op : IndexedOperation} {encode : Bool} {summary text : Text}

/-- The documentation of a method begins with the summary, which is cut off by a line
feed. -/
theorem exists_shown_methodDescription (isSummary : op.summary = some summary)
    (nonempty : summary ≠ []) (noFeed : '\n' ∉ summary) :
    ∃ more, Docstring.shown (methodDescription op) = summary ++ '\n' :: more := by
  have given : nonEmpty? op.summary = some summary := by
    rw [isSummary, nonEmpty?]
    exact Option.filter_eq_some_iff.mpr ⟨rfl, by simpa using nonempty⟩
  have description : methodDescription op =
      (summary ++ "\n\n" ++ verb op ++ [' ']) ++ op.path := by
    simp [methodDescription, given]
  obtain ⟨c, rest, rfl⟩ := List.exists_cons_of_ne_nil nonempty
  have head : (methodDescription op).head? = some c := by
    rw [description]
    rfl
  have first : c ≠ '\n' := by
    rintro rfl
    exact noFeed List.mem_cons_self
  have ends : Text.EndsInLine (c :: rest ++ "\n\n" ++ verb op ++ [' ']) :=
    Text.endsInLine_concat _ (by decide)
  refine ⟨'\n' :: (verb op ++ ' ' :: Text.dropEndWhile (· = '\n') op.path), ?_⟩
  rw [Docstring.shown, Text.trim_lineFeed_append head first description ends]
  simp

/-- Whether a summary reaches the documentation of its method unchanged.  In every class
and file that the method is rendered in, the documentation is read as a text whose first
line is empty and whose second one, up to the next line feed, is the summary with the margin
put into it at its breaks, which are U+0085, U+2028 and U+2029.  The summary is a part of
this line exactly if it is unbroken. -/
theorem summary_kept_iff_unbroken (isSummary : op.summary = some summary)
    (nonempty : summary ≠ []) (noFeed : '\n' ∉ summary)
    (rendered : RenderedIn (operationMethod op encode) text) :
    ∃ before after rest, ∃ line more : Text,
      text = before ++ indent (operationMethod op encode).signature ++ "\n" ++
        List.replicate 8 ' ' ++ after ∧
      Docstring.read? after = some ("\n" ++ line ++ "\n" ++ more, rest) ∧
      '\n' ∉ line ∧ line = Docstring.laidOut (List.replicate 8 ' ') summary ∧
      (∀ c ∈ summary,
        Docstring.isBreak c = true ↔ c = '\u0085' ∨ c = '\u2028' ∨ c = '\u2029') ∧
      (summary <:+: line ↔ Docstring.Unbroken summary) := by
  obtain ⟨before, after, behind, parts, read, -⟩ := read?_rendered rendered
  obtain ⟨request, description⟩ := exists_shown_methodDescription isSummary nonempty noFeed
  have feed : Docstring.isBreak '\n' = true := rfl
  have inLine : '\n' ∉ Docstring.laidOut bodyMargin summary := by
    have same : (Docstring.laidOut bodyMargin summary).count '\n' = summary.count '\n' :=
      Docstring.countP_laidOutFrom (by decide) true summary
    exact List.count_eq_zero.mp (same.trans (List.count_eq_zero.mpr noFeed))
  refine ⟨before, after, "\n" ++ Text.joinWith "\n" (codeLines op encode) ++ behind,
    Docstring.laidOut bodyMargin summary,
    Docstring.laidOut bodyMargin request ++ '\n' :: bodyMargin, parts, ?_, inLine, rfl, ?_, ?_⟩
  · rw [read, description, Docstring.laidOut, Docstring.laidOutFrom_append_break feed]
    simp [Docstring.laidOut]
  · intro c among
    have other : c ≠ '\n' := fun same => noFeed (same ▸ among)
    rw [Docstring.isBreak_iff, or_iff_right other]
  · have noInk : Text.Only (! Docstring.isInk ·) bodyMargin := by decide
    have noBreak : Text.Only (! Docstring.isBreak ·) bodyMargin := by decide
    exact ⟨Docstring.unbroken_of_infix_laidOut noInk noBreak (by decide),
      Docstring.Unbroken.infix_laidOut⟩

/-- An operation with a summary. -/
def summedUp (summary : Text) : IndexedOperation :=
  Document.recordOf "/s" "get" [("summary".toList, .str summary)]

/-- The module of that operation. -/
def summedUpModule (summary : Text) : Text :=
  (standaloneModule "default" none none [summedUp summary] false).text

theorem renderedIn_summedUpModule (summary : Text) :
    RenderedIn (operationMethod (summedUp summary) false) (summedUpModule summary) :=
  renderedIn_single (summedUp summary) false (named_recordOf _ _ _)

/-- A summary with control characters, and one of the three at its end, is read back as it
is.  Behind one of the three in the midst of another summary there is a margin. -/
theorem summary_kept_iff_unbroken_next_line :
    let kept : Text := "x\x00y\r\tz\u2028"
    let broken : Text := "a\u0085b"
    (∃ before after value rest, summedUpModule kept = before ++ after ∧
      Docstring.read? after = some (value, rest) ∧ kept <:+: value) ∧
    ∃ before after rest, ∃ line more : Text, summedUpModule broken = before ++ after ∧
      Docstring.read? after = some ("\n" ++ line ++ "\n" ++ more, rest) ∧
      line = "        a\u0085        b" ∧ ¬ broken <:+: line := by
  intro kept broken
  constructor
  · obtain ⟨before, after, rest, line, more, text, read, -, -, -, iff⟩ :=
      summary_kept_iff_unbroken rfl (by decide) (by decide) (renderedIn_summedUpModule kept)
    have inLine : kept <:+: line := iff.mpr (by decide)
    have inValue : line <:+: "\n" ++ line ++ "\n" ++ more := ⟨"\n", "\n" ++ more, by simp⟩
    exact ⟨_, after, _, rest, text, read, inLine.trans inValue⟩
  · obtain ⟨before, after, rest, line, more, text, read, -, laidOut, -, iff⟩ :=
      summary_kept_iff_unbroken rfl (by decide) (by decide) (renderedIn_summedUpModule broken)
    have isChanged : ¬ broken <:+: line := iff.not.mpr (by decide)
    exact ⟨_, after, rest, line, more, text, read, laidOut.trans (by decide), isChanged⟩

/-- It is not so that every summary in one line reaches the documentation of its method
unchanged: from no place in the module is a literal read that has the summary. -/
theorem some_summary_is_changed :
    ¬ ∀ (op : IndexedOperation) (encode : Bool) (summary text : Text),
      op.summary = some summary → summary ≠ [] → '\n' ∉ summary →
      RenderedIn (operationMethod op encode) text →
      ∃ before after value rest, text = before ++ after ∧
        Docstring.read? after = some (value, rest) ∧ summary <:+: value := by
  intro all
  let broken : Text := "a\u0085b"
  have rendered := renderedIn_summedUpModule broken
  obtain ⟨before, after, value, rest, text, read, part⟩ :=
    all (summedUp broken) false broken _ rfl (by decide) (by decide) rendered
  have none : ∀ after ∈ (summedUpModule broken).tails,
      ((Docstring.read? after).all fun found => ! decide (broken <:+: found.1)) = true := by
    decide +kernel
  have among := none after ((List.mem_tails _ _).mpr ⟨before, text.symm⟩)
  rw [read] at among
  simp [part] at among

end Client

end ClientGen
