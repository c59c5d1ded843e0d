/-
# Lines and indentation, character by character

Indentation is defined on the lines of a text.  Here it is given a second form
that goes through the text once and remembers only whether a line begins: the form
in which it can be followed through a reader of the text.  The two agree, and what
indentation can do to a text is read off the second.

The other laws say where lines are cut: after a line feed always, and never inside
a text without line ends.
-/
import ClientGen.Proofs.Text
import ClientGen.Text.Lines

namespace ClientGen.Text

variable {margin t : Text} {c : Char}

/-- The characters that end lines. -/
def lineEnds : Text :=
  ['\n', '\r', '\x0b', '\x0c', '\x1c', '\x1d', '\x1e', '\u0085', '\u2028', '\u2029']

/-- What holds of these characters holds of each that ends a line. -/
theorem of_isLineEnd (good : Char → Bool) (all : Only good lineEnds) (h : isLineEnd c = true) :
    good c = true := by
  apply all
  simpa [isLineEnd, lineEnds, or_assoc] using h

/-- Where it holds of none of them, what it holds of ends no line. -/
theorem isLineEnd_eq_false_of (good : Char → Bool) (none : Only (! good ·) lineEnds)
    (h : good c = true) : isLineEnd c = false := by
  cases ends : isLineEnd c with
  | false => rfl
  | true =>
      have bad := of_isLineEnd (! good ·) none ends
      simp [h] at bad

/-- A character that ends a line is blank. -/
theorem isBlank_of_isLineEnd (h : isLineEnd c = true) : isBlank c = true :=
  of_isLineEnd isBlank (by decide) h

/-- Where a line is cut there is a line end. -/
theorem isLineEnd_of_endsLine {rest : Text} (h : endsLine c rest = true) : isLineEnd c = true := by
  rw [endsLine, Bool.and_eq_true] at h
  exact h.1

/-- A line feed ends its line whatever follows. -/
@[simp]
theorem endsLine_lineFeed (rest : Text) : endsLine '\n' rest = true := rfl

/-- A character that is no line end does not end a line. -/
theorem endsLine_eq_false {rest : Text} (h : isLineEnd c = false) : endsLine c rest = false := by
  rw [endsLine, h, Bool.false_and]

/-- Whether a character ends its line is seen from what follows at once. -/
theorem endsLine_congr {rest rest' : Text} (h : rest.head? = some '\n' ↔ rest'.head? = some '\n') :
    endsLine c rest = endsLine c rest' := by
  rw [endsLine, endsLine]
  congr 3
  exact decide_eq_decide.mpr h

/-- The text has no character that ends a line. -/
def InLine (t : Text) : Prop := ∀ c ∈ t, isLineEnd c = false

instance (t : Text) : Decidable (InLine t) :=
  decidable_of_iff (t.all (! isLineEnd ·) = true) (by simp [InLine])

@[simp]
theorem inLine_append_iff {a b : Text} : InLine (a ++ b) ↔ InLine a ∧ InLine b :=
  List.forall_mem_append

theorem inLine_cons_iff {rest : Text} : InLine (c :: rest) ↔ isLineEnd c = false ∧ InLine rest :=
  List.forall_mem_cons

theorem InLine.lineFeed_not_mem (h : InLine t) : '\n' ∉ t := by
  intro among
  exact absurd (h _ among) (by decide)

/-! ## Indentation in one pass -/

/-- Whether the first line of a text has a character that is not blank. -/
def firstLineHasInk : Text → Bool
  | [] => false
  | c :: rest => ! isBlank c || (! endsLine c rest && firstLineHasInk rest)

/-- Indentation in one pass; `start` says whether a line begins. -/
def indentFrom (margin : Text) : Bool → Text → Text
  | _, [] => []
  | start, c :: rest =>
    (if start && firstLineHasInk (c :: rest) then margin else []) ++
      c :: indentFrom margin (endsLine c rest) rest

/-- A line with the margin it gets. -/
def indentLine (margin line : Text) : Text := if hasInk line then margin ++ line else line

/-- A margin before a line of a given ink. -/
theorem indentLine_eq (margin line : Text) :
    indentLine margin line = (if hasInk line then margin else []) ++ line := by
  rw [indentLine]
  split
  · rfl
  · rw [List.nil_append]

/-- The lines of a text that is not empty. -/
theorem lines_cons (c : Char) (rest : Text) :
    lines (c :: rest) =
      if endsLine c rest then [c] :: lines rest
      else (c :: (lines rest).headD []) :: (lines rest).tail := by
  rw [lines]
  split
  · rfl
  · cases lines rest <;> rfl

/-- The first line has ink as the one-pass form sees it. -/
theorem firstLineHasInk_eq (t : Text) : firstLineHasInk t = hasInk ((lines t).headD []) := by
  induction t with
  | nil => rfl
  | cons c rest ih =>
      rw [firstLineHasInk, lines_cons, ih]
      by_cases cut : endsLine c rest
      · simp [cut, hasInk, isBlank_of_isLineEnd (isLineEnd_of_endsLine cut)]
      · simp [cut, hasInk]

/-- Away from the start of a line, the first line is kept and the others are
indented. -/
theorem indentFrom_false (margin t : Text) :
    indentFrom margin false t =
      (lines t).headD [] ++ ((lines t).tail.map (indentLine margin)).flatten := by
  induction t with
  | nil => rfl
  | cons c rest ih =>
      rw [indentFrom, lines_cons]
      by_cases cut : endsLine c rest
      · have restStart : indentFrom margin true rest =
            ((lines rest).map (indentLine margin)).flatten := by
          cases rest with
          | nil => rfl
          | cons d more =>
              have atStart : indentFrom margin true (d :: more) =
                  (if firstLineHasInk (d :: more) then margin else []) ++
                    indentFrom margin false (d :: more) := by
                simp [indentFrom]
              have split : lines (d :: more) =
                  (lines (d :: more)).headD [] :: (lines (d :: more)).tail := by
                rw [lines_cons]
                split <;> rfl
              rw [atStart, ih, firstLineHasInk_eq, ← List.append_assoc, ← indentLine_eq]
              conv_rhs => rw [split]
              rfl
        simp [cut, restStart]
      · simp [cut, ih]

/-- At the start of a line the margin is put if the line has ink. -/
theorem indentFrom_true (margin t : Text) :
    indentFrom margin true t =
      (if firstLineHasInk t then margin else []) ++ indentFrom margin false t := by
  cases t with
  | nil => rfl
  | cons c rest => simp [indentFrom]

/-- Indenting line by line is indenting in one pass. -/
theorem indentBy_eq_indentFrom (margin t : Text) :
    indentBy margin t = indentFrom margin true t := by
  rw [indentFrom_true, indentFrom_false, firstLineHasInk_eq, ← List.append_assoc,
    ← indentLine_eq, indentBy]
  cases lines t with
  | nil => rfl
  | cons line more => rfl

/-! ## What indentation keeps -/

/-- Indentation adds the characters of the margin only. -/
theorem mem_indentFrom {start : Bool} (h : c ∈ indentFrom margin start t) : c ∈ margin ∨ c ∈ t := by
  induction t generalizing start with
  | nil => cases h
  | cons d rest ih =>
      rw [indentFrom] at h
      rcases List.mem_append.mp h with inMargin | inRest
      · split at inMargin
        · exact Or.inl inMargin
        · cases inMargin
      · rcases List.mem_cons.mp inRest with rfl | later
        · exact Or.inr List.mem_cons_self
        · exact (ih later).imp_right (List.mem_cons_of_mem _)

/-- Indentation adds the characters of the margin only. -/
theorem mem_indentBy (h : c ∈ indentBy margin t) : c ∈ margin ∨ c ∈ t := by
  rw [indentBy_eq_indentFrom] at h
  exact mem_indentFrom h

/-- Indentation keeps the last character of a text. -/
theorem getLast?_indentFrom (margin : Text) (start : Bool) (t : Text) :
    (indentFrom margin start t).getLast? = t.getLast? := by
  induction t generalizing start with
  | nil => rfl
  | cons c rest ih =>
      rw [indentFrom, List.getLast?_append]
      cases rest with
      | nil => simp [indentFrom]
      | cons d more =>
          have later := ih (endsLine c (d :: more))
          rw [List.getLast?_cons_cons, ← later]
          cases last : (indentFrom margin (endsLine c (d :: more)) (d :: more)).getLast? with
          | none =>
              rw [last] at later
              exact absurd (List.getLast?_eq_none_iff.mp later.symm) (List.cons_ne_nil d more)
          | some x =>
              rw [List.getLast?_cons, last]
              rfl

/-- Indentation keeps the last character of a text. -/
theorem getLast?_indentBy (margin t : Text) : (indentBy margin t).getLast? = t.getLast? := by
  rw [indentBy_eq_indentFrom, getLast?_indentFrom]

/-! ## Indentation goes through line feeds -/

/-- What follows a line feed does not matter for the ink of the first line. -/
theorem firstLineHasInk_append_lineFeed (t u : Text) :
    firstLineHasInk (t ++ '\n' :: u) = firstLineHasInk t := by
  induction t with
  | nil => rfl
  | cons c rest ih =>
      rw [List.cons_append, firstLineHasInk, firstLineHasInk, ih]
      cases rest with
      | nil => simp [firstLineHasInk]
      | cons d more =>
          have cut : endsLine c (d :: more ++ '\n' :: u) = endsLine c (d :: more) :=
            endsLine_congr Iff.rfl
          rw [cut]

/-- What is before a line feed and what is behind it are indented each on its own. -/
theorem indentFrom_append_lineFeed (margin : Text) (start : Bool) (t u : Text) :
    indentFrom margin start (t ++ '\n' :: u) =
      indentFrom margin start t ++ '\n' :: indentFrom margin true u := by
  induction t generalizing start with
  | nil =>
      have noInk : firstLineHasInk ('\n' :: u) = false := firstLineHasInk_append_lineFeed [] u
      simp [indentFrom, noInk]
  | cons c rest ih =>
      have sameInk := firstLineHasInk_append_lineFeed (c :: rest) u
      rw [List.cons_append] at sameInk
      rw [List.cons_append, indentFrom, indentFrom, sameInk, ih, List.append_assoc]
      cases rest with
      | nil => rfl
      | cons d more =>
          have cut : endsLine c (d :: more ++ '\n' :: u) = endsLine c (d :: more) :=
            endsLine_congr Iff.rfl
          rw [cut]
          rfl

/-- What is before a line feed and what is behind it are indented each on its own, a
carriage return before the line feed included. -/
theorem indentBy_append_lineFeed (margin t u : Text) :
    indentBy margin (t ++ '\n' :: u) = indentBy margin t ++ '\n' :: indentBy margin u := by
  simp only [indentBy_eq_indentFrom]
  exact indentFrom_append_lineFeed margin true t u

/-! ## Bodies of lines -/

/-- A line is a text without line ends, and then the characters that end it. -/
theorem exists_of_mem_lines {t line : Text} (h : line ∈ lines t) :
    ∃ body ends, line = body ++ ends ∧ InLine body ∧ Only isLineEnd ends := by
  induction t generalizing line with
  | nil => cases h
  | cons c rest ih =>
      rw [lines_cons] at h
      by_cases cut : endsLine c rest
      · rw [if_pos cut] at h
        rcases List.mem_cons.mp h with rfl | later
        · exact ⟨[], [c], rfl, by decide, by simp [Only, isLineEnd_of_endsLine cut]⟩
        · exact ih later
      · rw [if_neg cut] at h
        rcases List.mem_cons.mp h with rfl | later
        · cases lineEnd : isLineEnd c with
          | false =>
              cases more : lines rest with
              | nil => exact ⟨[c], [], rfl, by simp [InLine, lineEnd], by decide⟩
              | cons first others =>
                  obtain ⟨body, ends, rfl, noEnds, allEnds⟩ := ih (more ▸ List.mem_cons_self)
                  refine ⟨c :: body, ends, rfl, ?_, allEnds⟩
                  exact inLine_cons_iff.mpr ⟨lineEnd, noEnds⟩
          | true =>
              -- a carriage return before the line feed that ends the line
              have pair : c = '\r' ∧ rest.head? = some '\n' := by
                simpa [endsLine, lineEnd] using cut
              obtain ⟨rfl, next⟩ := pair
              obtain ⟨more, rfl⟩ := List.head?_eq_some_iff.mp next
              refine ⟨[], ['\r', '\n'], ?_, by decide, by decide⟩
              rw [lines_cons, endsLine_lineFeed, if_pos rfl]
              rfl
        · exact ih (List.mem_of_mem_tail later)

/-- The body of a line has no character that ends a line. -/
theorem inLine_of_mem_lineBodies {t body : Text} (h : body ∈ lineBodies t) : InLine body := by
  obtain ⟨line, among, rfl⟩ := List.mem_map.mp h
  obtain ⟨body, ends, rfl, noEnds, allEnds⟩ := exists_of_mem_lines among
  intro c hc
  rw [dropEndWhile, List.reverse_append, List.dropWhile_append_of_pos, List.mem_reverse] at hc
  · exact noEnds c (List.mem_reverse.mp ((List.dropWhile_sublist _).subset hc))
  · intro x hx
    exact allEnds x (List.mem_reverse.mp hx)

/-- A line feed closes the line before it. -/
theorem lines_append_lineFeed (t rest : Text) :
    lines (t ++ '\n' :: rest) = lines (t ++ ['\n']) ++ lines rest := by
  induction t with
  | nil => rfl
  | cons c more ih =>
      have cut : endsLine c (more ++ '\n' :: rest) = endsLine c (more ++ ['\n']) := by
        apply endsLine_congr
        cases more <;> simp
      have nonempty : lines (more ++ ['\n']) ≠ [] := by
        cases more with
        | nil => exact List.cons_ne_nil _ _
        | cons d others =>
            rw [List.cons_append, lines_cons]
            split <;> exact List.cons_ne_nil _ _
      rw [List.cons_append, List.cons_append, lines_cons, lines_cons, cut, ih]
      split
      · rfl
      · obtain ⟨first, others, hlines⟩ := List.exists_cons_of_ne_nil nonempty
        rw [hlines]
        rfl

/-- A text without line ends and a line feed behind it are one line. -/
theorem lines_body {body : Text} (h : InLine body) :
    lines (body ++ ['\n']) = [body ++ ['\n']] := by
  induction body with
  | nil => rfl
  | cons c rest ih =>
      obtain ⟨first, others⟩ := inLine_cons_iff.mp h
      rw [List.cons_append, lines_cons, endsLine_eq_false first, ih others]
      rfl

/-- A text without line ends and a line feed behind it have the text as the one
body. -/
theorem lineBodies_body {body : Text} (h : InLine body) :
    lineBodies (body ++ ['\n']) = [body] := by
  have stays : dropEndWhile isLineEnd (body ++ ['\n']) = body := by
    rw [dropEndWhile_eq_rdropWhile, List.rdropWhile_concat_pos _ _ _ rfl,
      List.rdropWhile_eq_self_iff]
    intro nonempty
    simp [h _ (List.getLast_mem nonempty)]
  rw [lineBodies, lines_body h, List.map_singleton, stays]

/-- The bodies of the lines before a line feed and those behind it. -/
theorem lineBodies_append_lineFeed (t rest : Text) :
    lineBodies (t ++ '\n' :: rest) = lineBodies (t ++ ['\n']) ++ lineBodies rest := by
  rw [lineBodies, lines_append_lineFeed, List.map_append]
  rfl

/-- Texts without line ends, each on a line of its own, are the bodies of the lines.
-/
theorem lineBodies_joinWith {pieces : List Text} (some : pieces ≠ [])
    (h : ∀ piece ∈ pieces, InLine piece) :
    lineBodies (joinWith "\n" pieces ++ ['\n']) = pieces := by
  induction pieces with
  | nil => exact absurd rfl some
  | cons piece rest ih =>
      obtain ⟨first, others⟩ := List.forall_mem_cons.mp h
      cases rest with
      | nil => exact lineBodies_body first
      | cons next more =>
          have split : joinWith "\n" (piece :: next :: more) ++ ['\n'] =
              piece ++ '\n' :: (joinWith "\n" (next :: more) ++ ['\n']) := by
            simp [joinWith]
          rw [split, lineBodies_append_lineFeed, lineBodies_body first,
            ih (List.cons_ne_nil next more) others]
          rfl

/-! ## Indentation of bodies -/

/-- A text without line ends gets one margin. -/
theorem indentBy_body (margin : Text) {body : Text} (h : InLine body) :
    indentBy margin body = indentLine margin body := by
  have one : lines body = if body = [] then [] else [body] := by
    induction body with
    | nil => rfl
    | cons c rest ih =>
        obtain ⟨first, others⟩ := inLine_cons_iff.mp h
        rw [lines_cons, endsLine_eq_false first, ih others]
        cases rest <;> rfl
  rw [indentBy, one]
  cases body with
  | nil => rfl
  | cons c rest => simp [indentLine]

/-- Lines without other line ends than line feeds are indented each on its own. -/
theorem indentBy_joinWith (margin : Text) {pieces : List Text}
    (h : ∀ piece ∈ pieces, InLine piece) :
    indentBy margin (joinWith "\n" pieces) = joinWith "\n" (pieces.map (indentLine margin)) := by
  induction pieces with
  | nil => rfl
  | cons piece rest ih =>
      obtain ⟨first, others⟩ := List.forall_mem_cons.mp h
      cases rest with
      | nil => exact indentBy_body margin first
      | cons next more =>
          have split : joinWith "\n" (piece :: next :: more) =
              piece ++ '\n' :: joinWith "\n" (next :: more) := by
            simp [joinWith]
          rw [split, indentBy_append_lineFeed, indentBy_body margin first, ih others]
          simp [joinWith]

/-! ## Line feeds only -/

/-- A part without carriage returns is read as it is. -/
theorem unifyNewlines_append (h : '\r' ∉ t) (u : Text) :
    unifyNewlines (t ++ u) = t ++ unifyNewlines u := by
  induction t with
  | nil => rfl
  | cons c rest ih =>
      obtain ⟨first, others⟩ := not_or.mp (List.mem_cons.not.mp h)
      rw [List.cons_append, unifyNewlines, if_neg (Ne.symm first), ih others]
      · rfl
      · rintro more same -
        exact first same.symm

/-- A text without carriage returns is read as it is. -/
theorem unifyNewlines_eq_self (h : '\r' ∉ t) : unifyNewlines t = t := by
  have whole := unifyNewlines_append h []
  rwa [unifyNewlines, List.append_nil] at whole

end ClientGen.Text
